import DeclGen.Member
import DeclGen.Schema.Record

/-! Enum members in data, whose name and value must be there and whose other keys are skipped. -/

namespace DeclGen.Schema

variable {L : Type}

/-- The fields of a member that were met so far. -/
structure MemberDraft where
  /-- The name. -/
  name : Option String := none
  /-- The value. -/
  value : Option String := none
  /-- The comment. -/
  comment : Option String := none

/-- The shape of a member. -/
def memberRecord : Record L MemberDraft where
  expected := .member
  fields := [
    ⟨"name", fun _ value draft => do return { draft with name := some (← readText value) }⟩,
    ⟨"value", fun _ value draft => do return { draft with value := some (← readText value) }⟩,
    ⟨"comment", fun _ value draft => do return { draft with comment := ← readOptionalText value }⟩]
  strict := false

/-- What is wrong with a member that lacks a field: a row is too short, a table lacks a key. -/
def lacking (name : String) : Tree L → Fault L
  | .sequence label items => ⟨.tooShort items.length .member 3, label⟩
  | value => ⟨.missingField name, value.label⟩

/-- The member that a draft holds, if its required fields were met. -/
def MemberDraft.complete (draft : MemberDraft) (value : Tree L) : Except (Fault L) Member :=
  match draft.name, draft.value with
  | some name, some text => .ok ⟨name, text, draft.comment⟩
  -- The first field that is missing is the one that is told.
  | none, _ => .error (lacking "name" value)
  | _, none => .error (lacking "value" value)

/-- Reads a member. -/
def readMember (surplus : Surplus) (value : Tree L) : Except (Fault L) Member := do
  let draft ← memberRecord.read {} value
  let member ← draft.complete value
  -- A row with too many items has its required fields, so it was complete.
  memberRecord.checkSurplus surplus value
  return member

end DeclGen.Schema
