import DeclGen.Text.Region
import DeclGen.Tree

/-! Values of a document that is being read: where each was written, and what may be added to it. -/

namespace DeclGen.Toml

/-- What a later line of a document may still add to a value. -/
inductive Status where
  /-- Nothing: the value was written out in one piece. -/
  | closed
  /-- The table was only passed through by a header, and a header of its own may follow. -/
  | implied
  /-- The table was only passed through by a dotted key, and dotted keys may add to it. -/
  | dotted
  /-- The table, or the array of tables, has a header of its own. -/
  | opened
  deriving DecidableEq, Repr

/-- The label of a value that is being read. -/
structure Place where
  /-- Where the value was written. -/
  region : Region
  /-- What may still be added to it. -/
  status : Status
  deriving DecidableEq, Repr

/-- The label of a value that stands between two rests of a text and is complete. -/
def Place.between (start stop : List Char) : Place := ⟨⟨start, stop⟩, .closed⟩

/-- How deep a document may put values in each other, and how many keys a path of it may have. -/
def depthLimit : Nat := 80

/-- A value of a document that is being read. -/
abbrev Draft := Tree Place

/-- The fields of a table that is being read, in the order of their first mention. -/
abbrev Fields := List (Key Place × Draft)

/-- A reader takes a value from the front of a text and gives what is left, or refuses. -/
abbrev Reader (α : Type) := List Char → Option (α × List Char)

end DeclGen.Toml
