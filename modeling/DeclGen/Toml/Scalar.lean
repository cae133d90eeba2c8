import DeclGen.Toml.Blank
import DeclGen.Toml.Moment
import DeclGen.Toml.Number
import DeclGen.Toml.Place

/-! Values that are written as bare words: truth values, numbers, dates and times. -/

namespace DeclGen.Toml

/-- Whether a character may stand in a bare word: it separates nothing. -/
def isWordChar (c : Char) : Bool :=
  !(isBlank c || ['\n', '\r', '=', ',', '[', ']', '{', '}', '#'].contains c)

/-- Whether a word behind blanks belongs to the word in front of them, by its first character. -/
def continuesWord (c : Char) : Bool :=
  isWordChar c && c ≠ '.' && c ≠ '"' && c ≠ '\x27'

/-- What is left behind the bare words in front of a text, such as a date and its time. -/
def skipWords (text : List Char) : List Char :=
  let rest := text.dropWhile isWordChar
  let next := skipBlanks rest
  -- Words with a blank between them are one value, as a date and a time can be.
  if next.length < text.length then
    if next.head?.any continuesWord then skipWords next else rest
  else rest
termination_by text.length

/-- Whether some width of integers holds a number: a signed or an unsigned word of 128 bits. -/
def fitsWidest (number : Int) : Bool :=
  -Int.pow 2 127 ≤ number && number < Int.pow 2 128

/-- The value that bare words stand for. -/
def scalar? {L : Type} (label : L) (words : List Char) : Option (Tree L) :=
  if words = ['t', 'r', 'u', 'e'] then some (.boolean label true)
  else if words = ['f', 'a', 'l', 's', 'e'] then some (.boolean label false)
  else match integer? words, float? words with
    -- What no width holds is still written like an integer, and only lacks a value.
    | some literal, _ =>
      some (((literal.value.filter fitsWidest).map (.integer label)).getD (.valueless label))
    | none, some literal => some (literal.value.elim (.valueless label) (.float label))
    | none, none => if isMoment words then some (.moment label) else none

/-- Reads a value that is written as bare words. -/
def readScalar : Reader Draft := fun text =>
  let rest := skipWords text
  (scalar? (.between text rest) (text.take (text.length - rest.length))).map (·, rest)

end DeclGen.Toml
