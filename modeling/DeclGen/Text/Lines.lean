/-! Cutting a text at a character, and the lines of a text. -/

namespace DeclGen.Text

/-- Cuts a text at every occurrence of a character, which gives one part more than there are. -/
def split (separator : Char) : List Char → List (List Char)
  | [] => [[]]
  | c :: rest =>
    -- A separator closes an empty part; any other character joins the first part of the rest.
    if c = separator then [] :: split separator rest
    else match split separator rest with
      | [] => [[c]]
      | part :: parts => (c :: part) :: parts

/-- The lines of a text, without their newlines. -/
def lines (text : String) : List String :=
  (split '\n' text.toList).map String.ofList

/-- Writes lines one below the other, with a newline between neighbours and none at the end. -/
def joinLines (parts : List String) : String :=
  "\n".intercalate parts

end DeclGen.Text
