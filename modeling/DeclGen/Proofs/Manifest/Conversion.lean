import DeclGen.Manifest.Basic
import DeclGen.Proofs.Declaration.Body
import DeclGen.Proofs.Member

/-! The record of an entry: members become its block, and its block then decides its body. -/

namespace DeclGen

namespace Declaration

/-- Attaching a comment leaves the kind as it is. -/
@[simp] theorem withComment_kind (source : CommentSource) (declaration : Declaration) :
    (declaration.withComment source).kind = declaration.kind := by
  unfold withComment
  split <;> rfl

/-- Attaching a comment leaves the block as it is. -/
@[simp] theorem withComment_block (source : CommentSource) (declaration : Declaration) :
    (declaration.withComment source).block = declaration.block := by
  unfold withComment
  split <;> rfl

end Declaration

namespace Entry

/-- The kind of a record is the known kind of its entry. -/
@[simp] theorem record_kind (settings : Settings) (entry : Entry) :
    (entry.record settings).kind = entry.knownKind := by
  simp [record]

/-- The block of a record is the body of its entry. -/
@[simp] theorem record_block (settings : Settings) (entry : Entry) :
    (entry.record settings).block = entry.body settings := by
  simp [record]

/-- Without a block of its own an entry has all its members for a body. -/
theorem body_of_members {entry : Entry} (settings : Settings) (noBlock : entry.block = none)
    (filled : entry.members ≠ []) :
    entry.body settings = some (Member.renderAll settings entry.members) := by
  obtain ⟨first, rest, members⟩ := List.exists_cons_of_ne_nil filled
  simp [body, noBlock, members]

end Entry

end DeclGen
