import DeclGen.Toml.Moment
import DeclGen.Tree

/-!
Documents that can be read without a schema.

Numbers have to fit 64 bits then, and a table that has the key of dates and times in front of all
its keys has to hold one.
-/

namespace DeclGen.Toml

variable {L : Type}

/-- Whether an integer fits a signed word of 64 bits. -/
def fitsWord (value : Int) : Bool :=
  -Int.pow 2 63 ≤ value && value < Int.pow 2 63

/-- What a table holds under the key of dates and times, if that is the first of its keys. -/
def momentField? (fields : List (Key L × Tree L)) : Option (Tree L) :=
  if fields.all (momentKey ≤ ·.1.name) then
    (fields.find? (·.1.name = momentKey)).map (·.2)
  else none

/-- Whether a value is the text of a date or a time. -/
def isMomentText : Tree L → Bool
  | .text _ value => isMoment value.toList
  | _ => false

mutual

/-- Whether a value can be read without a schema. -/
def isSound : Tree L → Bool
  | .integer _ number => fitsWord number
  -- Floating-point numbers that are too large have no value either.
  | .valueless _ => false
  | .sequence _ items => areItemsSound items
  | .table _ fields =>
    match momentField? fields with
    | some value => isMomentText value
    | none => areFieldsSound fields
  | _ => true

/-- Whether values in a row can be read without a schema. -/
def areItemsSound : List (Tree L) → Bool
  | [] => true
  | item :: rest => isSound item && areItemsSound rest

/-- Whether values under names can be read without a schema. -/
def areFieldsSound : List (Key L × Tree L) → Bool
  | [] => true
  | (_, value) :: rest => isSound value && areFieldsSound rest

end

/-- Whether a document can be read without a schema; its root is a table by any keys. -/
def isSoundDocument : Tree L → Bool
  | .table _ fields => areFieldsSound fields
  | value => isSound value

end DeclGen.Toml
