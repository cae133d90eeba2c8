import DeclGen.Toml.Place

/-!
Documents written from trees.

Of the many spellings of a document it takes one that needs no care: a text has all its characters
by their numbers, a value is on one line, and a comma follows every item.
-/

namespace DeclGen.Toml

variable {L : Type}

/-- The hexadecimal digits of a number, as many as asked for. -/
def hexDigits : Nat → Nat → List Char
  | 0, _ => []
  | count + 1, number => hexDigits count (number / 16) ++ [Nat.digitChar (number % 16)]

/-- A character by its number. -/
def writeChar (c : Char) : List Char := '\\' :: 'U' :: hexDigits 8 c.toNat

/-- A text between double quotes. -/
def writeText (text : String) : List Char := '"' :: (text.toList.flatMap writeChar ++ ['"'])

/-- A truth value. -/
def writeBoolean : Bool → List Char
  | true => ['t', 'r', 'u', 'e']
  | false => ['f', 'a', 'l', 's', 'e']

mutual

/-- A value of a document; what `Writable` leaves out has no text here. -/
def write : Tree L → List Char
  | .text _ value => writeText value
  | .boolean _ value => writeBoolean value
  | .integer _ value => [Nat.digitChar value.toNat]
  | .sequence _ items => '[' :: (writeItems items ++ [']'])
  | .table _ fields => '{' :: (writeFields fields ++ ['}'])
  | _ => []

/-- The items of an array, each with its comma. -/
def writeItems : List (Tree L) → List Char
  | [] => []
  | item :: rest => write item ++ ',' :: writeItems rest

/-- The pairs of an inline table, each with its comma. -/
def writeFields : List (Key L × Tree L) → List Char
  | [] => []
  | (key, value) :: rest => writeText key.name ++ '=' :: (write value ++ ',' :: writeFields rest)

end

/-- A document that gives values to keys, each on a line of its own. -/
def writeDocument : List (Key L × Tree L) → List Char
  | [] => []
  | (key, value) :: rest => writeText key.name ++ '=' :: (write value ++ '\n' :: writeDocument rest)

/-- The names of the keys of a table differ. -/
def DistinctKeys (fields : List (Key L × Tree L)) : Prop := (fields.map (·.1.name)).Nodup

/-- Whether a value can be written: it is not too deep, and its integers have one digit. -/
def Writable : Nat → Tree L → Prop
  | _, .text _ _ | _, .boolean _ _ => True
  | _, .integer _ value => 0 ≤ value ∧ value ≤ 9
  | depth + 1, .sequence _ items => ∀ item ∈ items, Writable depth item
  | depth + 1, .table _ fields =>
    DistinctKeys fields ∧ ∀ field ∈ fields, Writable depth field.2
  | _, _ => False

end DeclGen.Toml
