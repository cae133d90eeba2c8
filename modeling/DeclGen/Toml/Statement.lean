import DeclGen.Toml.Value

/-! Statements of a document: a line that is not empty opens a table or gives a value to a key. -/

namespace DeclGen.Toml

/-- One statement of a document. -/
inductive Statement where
  /-- A value for a key of the table that is open. -/
  | pair (path : KeyPath) (value : Draft)
  /-- The header of a table. -/
  | table (region : Region) (path : KeyPath)
  /-- The header of one more table of an array. -/
  | item (region : Region) (path : KeyPath)

namespace Statement

/-- Reads the path of a header up to its closing brackets. -/
def readHeader (closing : List Char) (text : List Char) : Option (KeyPath × List Char) := do
  let (path, rest) ← readKeyPath (skipBlanks text)
  let rest := skipBlanks rest
  if rest.take closing.length = closing then some (path, rest.drop closing.length) else none

/-- Reads one statement, without the end of its line. -/
def read (text : List Char) : Option (Statement × List Char) :=
  match text with
  | '[' :: '[' :: rest => do
    -- Both brackets have to stand together, as they have to where the header ends.
    let (path, rest) ← readHeader [']', ']'] rest
    return (.item ⟨text, rest⟩ path, rest)
  | '[' :: rest => do
    let (path, rest) ← readHeader [']'] rest
    return (.table ⟨text, rest⟩ path, rest)
  | _ => do
    let ((path, value), rest) ← readPair skipBlanks (readValue depthLimit) text
    return (.pair path value, rest)

/-- Reads all statements of a document. -/
def readAll (text : List Char) : Option (List Statement) :=
  match skipTrivia text with
  | [] => some []
  | start => do
    let (statement, rest) ← read start
    let next ← readLineEnd rest
    -- Every statement takes a character, so the rest is shorter.
    if next.length < text.length then do
      let statements ← readAll next
      return statement :: statements
    else none
termination_by text.length

end Statement

end DeclGen.Toml
