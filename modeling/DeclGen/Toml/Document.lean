import DeclGen.Toml.Statement

/-!
Documents: the tree of values that the statements of a text build.

A text that is no document has no tree; why it is none is not told apart.
-/

namespace DeclGen.Toml

/-- A document up to some statement: its fields, and the path of the table that is open. -/
structure Assembly where
  /-- The fields of the root table. -/
  fields : Fields := []
  /-- The keys of the last header, none of which stands for the root. -/
  current : List (Key Place) := []

namespace Assembly

/-- The document with one statement more. -/
def add (assembly : Assembly) : Statement → Option Assembly
  -- The open table is found again by its path, in its present state.
  | .pair path value => do
    let fields ← descend .header (assign path value) assembly.current .opened assembly.fields
    return { assembly with fields }
  | .table region path => do
    return ⟨← openTable region path .opened assembly.fields, path.keys⟩
  | .item region path => do
    return ⟨← openItem region path .opened assembly.fields, path.keys⟩

end Assembly

/-- The fields that statements build, if none contradicts those before it. -/
def assemble (statements : List Statement) : Option Fields :=
  (statements.foldlM Assembly.add {}).map (·.fields)

namespace Document

/-- Reads a document as a tree whose labels say where each value and key was written. -/
def read (source : List Char) : Option (Tree Region) := do
  let statements ← Statement.readAll (skipMark source)
  let fields ← assemble statements
  -- Once the document is complete, nothing can be added to any table.
  return (Tree.table (.between source []) fields).map Place.region

end Document

end DeclGen.Toml
