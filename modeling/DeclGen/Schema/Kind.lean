import DeclGen.Kind
import DeclGen.Schema.Fault

/-! Kinds in data: a name, or a table with a name as its only key and nothing under it. -/

namespace DeclGen.Schema

variable {L : Type}

/-- Finds a kind by the name it is shown with, which is the only name it has in data. -/
def readKindName (label : L) (name : String) : Except (Fault L) Kind :=
  match Kind.ofName? name with
  | some kind => .ok kind
  | none => .error ⟨.unknownVariant name (Kind.all.map Kind.name), label⟩

/-- Reads a kind. -/
def readKind : Tree L → Except (Fault L) Kind
  | .text label name => readKindName label name
  | .table _ [(key, value)] => do
    -- The name is looked at first, then what stands under it.
    let kind ← readKindName key.label key.name
    match value with
    | .null _ => return kind
    | _ => mismatch .unit value
  | .table label _ => .error ⟨.notSingleKey, label⟩
  | value => mismatch .variant value

end DeclGen.Schema
