import DeclGen.Text.Classes
import DeclGen.Toml.Blank

/-! Escapes of string literals: what a backslash and the characters behind it stand for. -/

namespace DeclGen.Toml

/-- The character whose number is written with a fixed count of hexadecimal digits. -/
def numbered? (count : Nat) (rest : List Char) : Option Char :=
  let digits := rest.take count
  let number := Text.ofDigits 16 digits
  if digits.length = count && digits.all (Text.isDigitOf 16) && number.isValidChar
  then some (Char.ofNat number) else none

/-- Whether a character is a blank or belongs to a newline. -/
def isSpace (c : Char) : Bool := isBlank c || c = '\n' || c = '\r'

/-- What an escape stands for, and how many characters behind the backslash belong to it. -/
def escape? : List Char → Option (List Char × Nat)
  | [] => none
  | c :: rest =>
    match c with
    | 'b' => some (['\x08'], 1)
    | 't' => some (['\t'], 1)
    | 'n' => some (['\n'], 1)
    | 'f' => some (['\x0c'], 1)
    | 'r' => some (['\r'], 1)
    | 'e' => some (['\x1b'], 1)
    | '"' => some (['"'], 1)
    | '\\' => some (['\\'], 1)
    | 'x' => (numbered? 2 rest).map ([·], 3)
    | 'u' => (numbered? 4 rest).map ([·], 5)
    | 'U' => (numbered? 8 rest).map ([·], 9)
    | _ =>
      -- At the end of a line it stands for nothing, and takes all space up to the next character.
      let blanks := (c :: rest).takeWhile isBlank
      match (c :: rest).drop blanks.length with
      | '\n' :: _ | '\r' :: '\n' :: _ => some ([], ((c :: rest).takeWhile isSpace).length)
      | _ => none

/-- Replaces the escapes of a literal, after leaving out a number of characters. -/
def unescapeFrom : Nat → List Char → Option (List Char)
  | _, [] => some []
  | skip + 1, _ :: rest => unescapeFrom skip rest
  | 0, c :: rest =>
    if c = '\\' then
      match escape? rest with
      | some (meaning, width) => (unescapeFrom width rest).map (meaning ++ ·)
      | none => none
    else (unescapeFrom 0 rest).map (c :: ·)

/-- Replaces the escapes of a literal, or refuses one that has no meaning. -/
def unescape (body : List Char) : Option (List Char) := unescapeFrom 0 body

end DeclGen.Toml
