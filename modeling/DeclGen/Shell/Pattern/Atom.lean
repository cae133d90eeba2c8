import DeclGen.Text.Classes

/-!
The smallest parts of a pattern: characters, written as they are or as escapes.

A pattern stands for whole characters and knows letters and digits of ASCII only: what asks for
those of all scripts, or for a part of a character, makes a text no pattern.
-/

namespace DeclGen.Pattern

/-- What the flags in force say about a part of a pattern. -/
structure Mode where
  /-- Whether capitals and small letters count as the same. -/
  ignoresCase : Bool := false
  /-- Whether the part is about characters of all scripts, or else of ASCII. -/
  unicode : Bool := true
  /-- Whether spaces and comments are skipped. -/
  verbose : Bool := false
  deriving DecidableEq, Repr

/-- Skips the rest of a comment, and outside of one all spaces and comments. -/
def skipSpaces (inComment : Bool) : List Char → List Char
  | [] => []
  | c :: rest =>
    if inComment then skipSpaces (c ≠ '\n') rest
    else if Text.isSpace c then skipSpaces false rest
    else if c = '#' then skipSpaces true rest
    else c :: rest

namespace Mode

/-- Skips what stands for nothing. -/
def skip (mode : Mode) (text : List Char) : List Char :=
  if mode.verbose then skipSpaces false text else text

/-- Whether letters would have to be compared in all scripts. -/
def needsFolding (mode : Mode) : Bool := mode.ignoresCase && mode.unicode

/-- Sets one flag; those that change nothing about what a pattern is are left out. -/
def set (mode : Mode) (value : Bool) (flag : Char) : Mode :=
  match flag with
  | 'i' => { mode with ignoresCase := value }
  | 'u' => { mode with unicode := value }
  | 'x' => { mode with verbose := value }
  | _ => mode

/-- Sets the flags of a word; behind a minus they are taken back. -/
def apply (mode : Mode) (flags : List Char) : Mode :=
  let set := (flags.takeWhile (· ≠ '-')).foldl (Mode.set · true ·) mode
  (flags.dropWhile (· ≠ '-')).foldl (Mode.set · false ·) set

end Mode

/-- What one escape or character stands for. -/
inductive Atom where
  /-- A character. -/
  | literal (c : Char)
  /-- Digits, spaces or the characters of words. -/
  | group
  /-- A place between characters. -/
  | anchor
  deriving DecidableEq, Repr

/-- Reads hexadecimal digits, whose count is fixed. -/
def readDigits (mode : Mode) : Nat → List Char → Option (List Char × List Char)
  | 0, text => some ([], text)
  | count + 1, text =>
    match mode.skip text with
    | [] => none
    | c :: rest => do
      if Text.isDigitOf 16 c then
        let (digits, rest) ← readDigits mode count rest
        return (c :: digits, rest)
      else none

/-- Reads the number of a character; one of two digits is a byte where the part is about ASCII. -/
def readNumber (mode : Mode) (count : Nat) (text : List Char) : Option (Atom × List Char) := do
  let (digits, rest) ← readDigits mode count text
  let number := Text.ofDigits 16 digits
  -- Two digits stand for a byte, and one beyond ASCII would be a part of a character.
  if number.isValidChar && (mode.unicode || 2 < count || number < 0x80)
  then return (.literal (Char.ofNat number), rest) else none

/-- Reads an escape behind its backslash. -/
def readEscape (mode : Mode) : List Char → Option (Atom × List Char)
  | [] => none
  | c :: rest =>
    match c with
    | 'x' => readNumber mode 2 rest
    | 'u' => readNumber mode 4 rest
    | 'U' => readNumber mode 8 rest
    | 'a' => some (.literal '\x07', rest)
    | 'f' => some (.literal '\x0c', rest)
    | 't' => some (.literal '\t', rest)
    | 'n' => some (.literal '\n', rest)
    | 'r' => some (.literal '\r', rest)
    | 'v' => some (.literal '\x0b', rest)
    | 'A' | 'z' => some (.anchor, rest)
    -- Groups and edges of words are those of all scripts unless the flags say otherwise.
    | 'd' | 's' | 'w' => if mode.unicode then none else some (.group, rest)
    | 'b' | 'B' | '<' | '>' => if mode.unicode then none else some (.anchor, rest)
    | _ => if c.toNat < 0x80 && !c.isAlphanum then some (.literal c, rest) else none

/-- Whether an atom can stand for itself outside of brackets. -/
def Mode.allows (mode : Mode) : Atom → Bool
  | .literal _ => !mode.needsFolding
  | .group | .anchor => true

/-- Whether an atom can stand between brackets. -/
def Mode.allowsInside (mode : Mode) : Atom → Bool
  | .literal c => !mode.needsFolding && (mode.unicode || c.toNat < 0x80)
  | .group => true
  | .anchor => false

end DeclGen.Pattern
