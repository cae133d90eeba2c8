import DeclGen.Decimal.Binary64

/-!
Trees of data, as documents hold them.

Every node and every key carries a label, which says where it was written; a tree that was not read
from a text has labels that say nothing.
-/

namespace DeclGen

/-- The key of a table's field. -/
structure Key (L : Type) where
  /-- The name, without quotes. -/
  name : String
  /-- Where the key was written. -/
  label : L
  deriving DecidableEq, Repr

/-- A value of a document, with a label `L` on every node. -/
inductive Tree (L : Type) where
  /-- The value that stands for no value. -/
  | null (label : L)
  /-- A truth value. -/
  | boolean (label : L) (value : Bool)
  /-- An integer. -/
  | integer (label : L) (value : Int)
  /-- A floating-point number. -/
  | float (label : L) (value : Binary64)
  /-- What is written like a number and has no value, such as one that no width holds. -/
  | valueless (label : L)
  /-- A text. -/
  | text (label : L) (value : String)
  /-- A date, a time, or both. -/
  | moment (label : L)
  /-- Values in a row. -/
  | sequence (label : L) (items : List (Tree L))
  /-- Values under names. -/
  | table (label : L) (fields : List (Key L × Tree L))

/-- The one key of a date or time that is passed on as a table. -/
def momentKey : String := "$__toml_private_datetime"

instance {L : Type} [Inhabited L] : Inhabited (Tree L) := ⟨.null default⟩

namespace Tree

variable {L M : Type}

/-- The label of the whole value. -/
def label : Tree L → L
  | .null label | .boolean label _ | .integer label _ | .float label _ | .valueless label
  | .text label _ | .moment label | .sequence label _ | .table label _ => label

mutual

/-- Changes every label, of nodes and of keys. -/
def map (f : L → M) : Tree L → Tree M
  | .null label => .null (f label)
  | .boolean label value => .boolean (f label) value
  | .integer label value => .integer (f label) value
  | .float label value => .float (f label) value
  | .valueless label => .valueless (f label)
  | .text label value => .text (f label) value
  | .moment label => .moment (f label)
  | .sequence label items => .sequence (f label) (mapItems f items)
  | .table label fields => .table (f label) (mapFields f fields)

/-- Changes every label of values in a row. -/
def mapItems (f : L → M) : List (Tree L) → List (Tree M)
  | [] => []
  | item :: rest => item.map f :: mapItems f rest

/-- Changes every label of values under names. -/
def mapFields (f : L → M) : List (Key L × Tree L) → List (Key M × Tree M)
  | [] => []
  | (key, value) :: rest => (⟨key.name, f key.label⟩, value.map f) :: mapFields f rest

end

mutual

/-- Whether every node of a value passes a test. -/
def all (test : Tree L → Bool) : Tree L → Bool
  | .sequence label items => test (.sequence label items) && allItems test items
  | .table label fields => test (.table label fields) && allFields test fields
  | value => test value

/-- Whether every node of values in a row passes a test. -/
def allItems (test : Tree L → Bool) : List (Tree L) → Bool
  | [] => true
  | item :: rest => item.all test && allItems test rest

/-- Whether every node of values under names passes a test. -/
def allFields (test : Tree L → Bool) : List (Key L × Tree L) → Bool
  | [] => true
  | (_, value) :: rest => value.all test && allFields test rest

end

/-- Whether a value can be skipped, for which each of its numbers has to have a value. -/
def skippable (value : Tree L) : Bool :=
  value.all fun
    | .valueless _ => false
    | _ => true

end Tree

end DeclGen
