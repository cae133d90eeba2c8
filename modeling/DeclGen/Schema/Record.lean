import DeclGen.Schema.Fault

/-!
Records in data.

A record is written as a table, whose keys are visited in the order of their names, or as a row,
whose items are its fields in declared order; the first fault on the way is the one that is told.
-/

namespace DeclGen.Schema

variable {L R : Type}

/-- A field of a record `R`. -/
structure Field (L R : Type) where
  /-- The key it has in a table. -/
  name : String
  /-- Enters a value into the record so far; a width is told about at the label. -/
  put : L → Tree L → R → Except (Fault L) R

/-- The shape of a record `R`. -/
structure Record (L R : Type) where
  /-- How the record is told about. -/
  expected : Expected
  /-- Its fields in declared order. -/
  fields : List (Field L R)
  /-- Whether a key that is no field is a fault; else it is skipped. -/
  strict : Bool

/-- What is done with the items of a row that are more than the fields of its record. -/
inductive Surplus where
  | ignored
  | refused
  deriving DecidableEq, Repr

/-- Puts a pair in front of the first one whose key does not come earlier. -/
def insertByKey (pair : Key L × Tree L) : List (Key L × Tree L) → List (Key L × Tree L)
  | [] => [pair]
  | other :: rest =>
    if pair.1.name ≤ other.1.name then pair :: other :: rest else other :: insertByKey pair rest

/-- The pairs of a table in the order of their keys, which is the order of the keys' bytes too. -/
def sortedByKey (pairs : List (Key L × Tree L)) : List (Key L × Tree L) :=
  pairs.foldr insertByKey []

namespace Record

/-- Enters one pair of a table into the record so far. -/
def putPair (shape : Record L R) (record : R) (pair : Key L × Tree L) : Except (Fault L) R :=
  match shape.fields.find? (·.name = pair.1.name) with
  | some field => field.put pair.2.label pair.2 record
  | none =>
    if shape.strict then
      .error ⟨.unknownField pair.1.name (shape.fields.map (·.name)), pair.1.label⟩
    -- What is skipped is read all the same, and a number without a value cannot be.
    else if pair.2.skippable then .ok record
    else .error ⟨.valueless, pair.2.label⟩

/-- Enters one item of a row into the record so far, as the value of its field. -/
def putItem (label : L) (record : R) (item : Field L R × Tree L) : Except (Fault L) R :=
  item.1.put label item.2 record

/-- Enters a table or a row into a record; the caller looks for what is missing in the end. -/
def read (shape : Record L R) (start : R) : Tree L → Except (Fault L) R
  | .table _ pairs => (sortedByKey pairs).foldlM shape.putPair start
  -- A date or a time is passed on as a table, whose one key no record has.
  | .moment label => shape.putPair start (⟨momentKey, label⟩, .text label "")
  -- Fields behind the last item keep what they start with.
  | .sequence label items => (shape.fields.zip items).foldlM (putItem label) start
  | value => mismatch shape.expected value

/-- Refuses a row that has more items than its record has fields, where that is asked for. -/
def checkSurplus (shape : Record L R) (surplus : Surplus) : Tree L → Except (Fault L) Unit
  | .sequence label items =>
    if surplus = .refused ∧ shape.fields.length < items.length
    then .error ⟨.tooLong items.length, label⟩ else .ok ()
  | _ => .ok ()

end Record

/-- Reads a text. -/
def readText : Tree L → Except (Fault L) String
  | .text _ value => .ok value
  | value => mismatch .text value

/-- Reads a text that may be absent. -/
def readOptionalText : Tree L → Except (Fault L) (Option String)
  | .null _ => .ok none
  | value => (readText value).map some

/-- Reads a truth value. -/
def readBoolean : Tree L → Except (Fault L) Bool
  | .boolean _ value => .ok value
  | value => mismatch .boolean value

/-- Reads values in a row, each in the same way, up to the first fault. -/
def readEach {α : Type} (read : Tree L → Except (Fault L) α) : Tree L → Except (Fault L) (List α)
  | .sequence _ items => items.mapM read
  | value => mismatch .sequence value

end DeclGen.Schema
