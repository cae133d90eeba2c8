import DeclGen.Text.Lines

/-! Texts wrapped to lines of a limited width, with marks in front of the lines. -/

namespace DeclGen.Text

/-- Cuts a line into words, each with the blanks behind it; blanks in front have an empty word. -/
def wordsOf : List Char → List (List Char × List Char)
  | [] => []
  | c :: rest =>
    -- Read from the end, blanks come before their word and wait for it under an empty one.
    match wordsOf rest with
    | ([], blanks) :: more => if c = ' ' then ([], c :: blanks) :: more else ([c], blanks) :: more
    | (word, blanks) :: more =>
      if c = ' ' then ([], [c]) :: (word, blanks) :: more else (c :: word, blanks) :: more
    | [] => if c = ' ' then [([], [c])] else [([c], [])]

/-- Cuts a word that is too long for a line into pieces, the last of which keeps the blanks. -/
def piecesOf (width : Nat) (word blanks : List Char) : List (List Char × List Char) :=
  if 0 < width ∧ width < word.length then
    (word.take width, []) :: piecesOf width (word.drop width) blanks
  else [(word, blanks)]
termination_by word.length
decreasing_by grind

/-- Fills lines with words, a new line being begun where the next word does not fit. -/
def fillLines (width : Nat) (line : List Char) :
    List (List Char × List Char) → List (List Char)
  | [] => [line]
  | (word, blanks) :: rest =>
    -- The blanks behind a word may hang over the end of a line.
    if width < line.length + word.length ∧ line ≠ [] then
      line :: fillLines width (word ++ blanks) rest
    else fillLines width (line ++ word ++ blanks) rest

/-- Wraps one line; a line that fits stays as it is. -/
def wrapLine (width : Nat) (line : List Char) : List (List Char) :=
  if line.length ≤ width then [line]
  else fillLines width [] ((wordsOf line).flatMap fun (word, blanks) => piecesOf width word blanks)

/-- Wraps a text; the first line and those below it get marks of one width in front. -/
def wrap (width : Nat) (first below text : String) : String :=
  let lines := (split '\n' text.toList).flatMap (wrapLine (width - first.length))
  -- Blanks at the end of a line are left out only after all lines are filled.
  let trimmed := lines.map fun line => (line.reverse.dropWhile (· = ' ')).reverse
  let marks := first :: List.replicate (lines.length - 1) below
  String.join ((marks.zip trimmed).map fun (mark, line) => mark ++ String.ofList line ++ "\n")

end DeclGen.Text
