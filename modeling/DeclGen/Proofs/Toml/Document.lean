import DeclGen.Proofs.Toml.Table
import DeclGen.Toml.Document

/-! A document that was written is read back as the tree that it was written from. -/

namespace DeclGen.Toml

/-- The statement that gives a value to a key without dots. -/
def plainStatement (field : Key Place × Draft) : Statement := .pair ⟨[], field.1⟩ field.2

/-- A line that gives a value to a key is one statement more than what follows the line. -/
theorem readAll_line {name : String} {tail next : List Char} {path : KeyPath} {value : Draft}
    (here : readPair skipBlanks (readValue depthLimit) (writeText name ++ tail) =
      some ((path, value), '\n' :: next))
    (shorter : next.length < tail.length) :
    Statement.readAll (writeText name ++ tail) =
      (Statement.readAll next).map (.pair path value :: ·) := by
  have whole : next.length < (writeText name ++ tail).length := by
    rw [List.length_append]
    omega
  rw [writeText, List.cons_append] at here whole ⊢
  -- A header would start with a bracket, so a quote starts a pair.
  have statement : Statement.read ('"' :: (name.toList.flatMap writeChar ++ ['"'] ++ tail)) =
      some (.pair path value, '\n' :: next) := by
    simp only [Statement.read, here]
    rfl
  have lineEnd : readLineEnd ('\n' :: next) = some next := rfl
  rw [Statement.readAll, skipTrivia_of_isSolid (by decide)]
  simp only [statement, lineEnd, Bind.bind, Option.bind_some, if_pos whole]
  cases Statement.readAll next <;> rfl

/-- The lines of a document are read back one after the other. -/
theorem readAll_writeDocument {fields : List (Key Unit × Tree Unit)}
    (writable : ∀ field ∈ fields, Writable depthLimit field.2) :
    ∃ drafts : Fields,
      Statement.readAll (writeDocument fields) = some (drafts.map plainStatement) ∧
        drafts.map eraseField = fields := by
  induction fields with
  | nil =>
    refine ⟨[], ?_, rfl⟩
    rw [writeDocument, Statement.readAll]
    rfl
  | cons field fields ih =>
    -- The reader stops at the end of the line, behind which the other lines follow.
    obtain ⟨drafts, later, erased⟩ := ih fun other member => writable other (by simp [member])
    have valued := writable field (by simp)
    obtain ⟨draft, here, same⟩ := readsBack_of_writable depthLimit field.2 valued '\n'
      (writeDocument fields) (by decide)
    -- The value starts with a character that no reader skips.
    obtain ⟨c, tail, start, solid, -⟩ := write_eq_cons valued
    rw [start, List.cons_append] at here
    obtain ⟨place, pair⟩ := readPair_writeText skipBlanks_of_isSolid field.1.name solid here
    have first : eraseField (⟨field.1.name, place⟩, draft) = field := Prod.ext rfl same
    refine ⟨(⟨field.1.name, place⟩, draft) :: drafts, ?_, by rw [List.map_cons, first, erased]⟩
    rw [writeDocument, start, List.cons_append, readAll_line pair (by simp; omega), later]
    rfl

/-- Statements without dots and headers fill the root table. -/
theorem assemble_plainStatement {drafts : Fields} (distinct : DistinctKeys drafts) :
    assemble (drafts.map plainStatement) = some drafts := by
  -- No header opens a table, so every statement goes into the root.
  have adds : ∀ (fields : Fields) (field : Key Place × Draft),
      field.1.name ∉ fields.map (·.1.name) →
        Assembly.add ⟨fields, []⟩ (plainStatement field) = some ⟨fields ++ [field], []⟩ := by
    intro fields field fresh
    simp only [plainStatement, Assembly.add, descend, assign_plain fresh]
    rfl
  have filled := foldlM_plainPair (fun fields => Assembly.mk fields []) plainStatement adds []
    distinct
  rw [assemble, filled]
  rfl

/-- No byte order mark stands in front of a document that was written. -/
theorem skipMark_writeDocument {L : Type} (fields : List (Key L × Tree L)) :
    skipMark (writeDocument fields) = writeDocument fields := by
  cases fields with
  | nil => rfl
  | cons field fields => rfl

/-- A document that was written is read back as the tree that it was written from. -/
theorem read_writeDocument {fields : List (Key Unit × Tree Unit)} (distinct : DistinctKeys fields)
    (writable : ∀ field ∈ fields, Writable depthLimit field.2) :
    ∃ tree, Document.read (writeDocument fields) = some tree ∧ tree.erase = .table () fields := by
  obtain ⟨drafts, read, erased⟩ := readAll_writeDocument writable
  have apart : DistinctKeys drafts := distinctKeys_of_eraseField (erased ▸ distinct)
  refine ⟨(Tree.table (.between (writeDocument fields) []) drafts).map Place.region, ?_, ?_⟩
  · rw [Document.read, skipMark_writeDocument, read]
    simp only [Bind.bind, Option.bind_some, assemble_plainStatement apart]
    rfl
  -- Leaving out the labels makes up for what reading put on the values.
  · rw [Tree.erase_map, Tree.erase, Tree.map, Tree.mapFields_eq_map, ← erased]
    rfl

end DeclGen.Toml
