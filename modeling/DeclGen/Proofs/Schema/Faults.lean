import DeclGen.Proofs.Text.ByteOrder
import DeclGen.Schema.Fault
import DeclGen.Tree
import Mathlib.Data.List.Sort

/-!
All faults of a document, without a stop at the first.

A layout says what each field of a record asks for. The traversal goes through a whole value and
lists what is wrong with it, and builds no record on the way.
-/

namespace DeclGen.Schema

variable {L : Type}

/-- What is wrong with a value of another type than asked for. -/
def typeFault (expected : Expected) (value : Tree L) : Fault L :=
  ⟨.wrongType (found value) expected, value.label⟩

/-- What is wrong with a value as a text. -/
def textFaults : Tree L → List (Fault L)
  | .text _ _ => []
  | value => [typeFault .text value]

/-- What is wrong with a value as a text that may be absent. -/
def optionalTextFaults : Tree L → List (Fault L)
  | .null _ => []
  | value => textFaults value

/-- What is wrong with a value as a truth value. -/
def booleanFaults : Tree L → List (Fault L)
  | .boolean _ _ => []
  | value => [typeFault .boolean value]

/--
What is wrong with a value as a width: a byte is told about where it stands, any other width at a
label of its own.
-/
def widthFaults (label : L) : Tree L → List (Fault L)
  | .integer place value =>
    if value < 0 ∨ 255 < value then [⟨.outOfByte value, place⟩]
    else if value ∈ [0, 2, 4, 8] then []
    else [⟨.unsupportedWidth value.toNat, label⟩]
  | value => [typeFault .byte value]

/-- What is wrong with values in a row, one after the other. -/
def eachFaults (faults : Tree L → List (Fault L)) : Tree L → List (Fault L)
  | .sequence _ items => items.flatMap faults
  | value => [typeFault .sequence value]

/-- What a field of a record asks for. -/
structure FieldRule (L : Type) where
  /-- The key it has in a table. -/
  name : String
  /-- What is wrong with a value in its place; a width is told about at the label. -/
  faults : L → Tree L → List (Fault L)

/-- What a record asks for. -/
structure Layout (L : Type) where
  /-- How the record is told about. -/
  expected : Expected
  /-- Its fields in declared order. -/
  fields : List (FieldRule L)
  /-- Whether a key that is no field is a fault. -/
  strict : Bool
  /-- The fields that have to be there, which are the first of all. -/
  required : List String := []

/-- Whether the key of one pair does not come after the key of another, byte by byte. -/
def comesFirst (one other : Key L × Tree L) : Prop :=
  Text.bytes one.1.name.toList ≤ Text.bytes other.1.name.toList

instance : DecidableRel (comesFirst (L := L)) := fun _ _ => List.decidableLE _ _

namespace Layout

/-- What is wrong with one pair of a table. -/
def pairFaults (layout : Layout L) (pair : Key L × Tree L) : List (Fault L) :=
  match layout.fields.find? (·.name = pair.1.name) with
  | some field => field.faults pair.2.label pair.2
  | none =>
    if layout.strict then
      [⟨.unknownField pair.1.name (layout.fields.map (·.name)), pair.1.label⟩]
    else []

/-- The required fields that no pair of a table has for its key. -/
def missingFaults (layout : Layout L) (label : L) (pairs : List (Key L × Tree L)) :
    List (Fault L) :=
  (layout.required.filter fun name => pairs.all (·.1.name ≠ name)).map
    (⟨.missingField ·, label⟩)

/-- What is wrong with a table: its pairs by the bytes of their keys, then what is not there. -/
def tableFaults (layout : Layout L) (label : L) (pairs : List (Key L × Tree L)) :
    List (Fault L) :=
  (pairs.insertionSort comesFirst).flatMap layout.pairFaults ++ layout.missingFaults label pairs

/-- What is wrong with a row: its items as the first fields, then that they are too few. -/
def rowFaults (layout : Layout L) (label : L) (items : List (Tree L)) : List (Fault L) :=
  (layout.fields.zip items).flatMap (fun (field, item) => field.faults label item)
    ++ (if items.length < layout.required.length then
        [⟨.tooShort items.length layout.expected layout.fields.length, label⟩] else [])

/-- What is wrong with a value as a record; a date or a time passes for a table with one key. -/
def faults (layout : Layout L) : Tree L → List (Fault L)
  | .table label pairs => layout.tableFaults label pairs
  | .moment label => layout.tableFaults label [(⟨momentKey, label⟩, .text label "")]
  | .sequence label items => layout.rowFaults label items
  | value => [typeFault layout.expected value]

end Layout

/-- What the shared settings ask for. -/
def settingsLayout : Layout L where
  expected := .settings
  fields := [
    ⟨"block_wrapper", fun _ => textFaults⟩,
    ⟨"enum_name_value_separator", fun _ => textFaults⟩,
    ⟨"indent", widthFaults⟩]
  strict := true

/-- What a member asks for. -/
def memberLayout : Layout L where
  expected := .member
  fields := [
    ⟨"name", fun _ => textFaults⟩,
    ⟨"value", fun _ => textFaults⟩,
    ⟨"comment", fun _ => optionalTextFaults⟩]
  strict := false
  required := ["name", "value"]

/-- What an entry asks for. -/
def entryLayout : Layout L where
  expected := .entry
  fields := [
    ⟨"kind", fun _ => optionalTextFaults⟩,
    ⟨"name", fun _ => textFaults⟩,
    ⟨"generics", fun _ => optionalTextFaults⟩,
    ⟨"decorator", fun _ => optionalTextFaults⟩,
    ⟨"content", fun _ => optionalTextFaults⟩,
    ⟨"block", fun _ => optionalTextFaults⟩,
    ⟨"method", fun _ => optionalTextFaults⟩,
    ⟨"ignore_block_wrapper", fun _ => booleanFaults⟩,
    ⟨"comment", fun _ => optionalTextFaults⟩,
    ⟨"members", fun _ => eachFaults memberLayout.faults⟩]
  strict := true

/-- What a manifest asks for. -/
def manifestLayout : Layout L where
  expected := .manifest
  fields := [
    ⟨"config", fun _ => settingsLayout.faults⟩,
    ⟨"declarations", fun _ => eachFaults entryLayout.faults⟩]
  strict := true

end DeclGen.Schema
