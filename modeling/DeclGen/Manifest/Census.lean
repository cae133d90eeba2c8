import DeclGen.Manifest.Basic

/-! Counting the declarations of a manifest by kind. -/

namespace DeclGen

namespace Census

/-- The name a declaration is counted under; those without a known kind share one of their own. -/
def heading (kind : Option Kind) : String :=
  (kind.map Kind.name).getD "untyped"

/-- Counts one more under a name, in a table that is kept in the order of its names. -/
def enter (name : String) : List (String × Nat) → List (String × Nat)
  | [] => [(name, 1)]
  | row :: rows =>
    if name = row.1 then (name, row.2 + 1) :: rows
    else if name < row.1 then (name, 1) :: row :: rows
    else row :: enter name rows

/-- How many declarations there are under each heading that occurs, counted one after the other. -/
def count (declarations : List Declaration) : List (String × Nat) :=
  declarations.foldl (fun rows declaration => enter (heading declaration.kind) rows) []

/-- The line that tells how many declarations there are. -/
def totalLine (total : Nat) : String :=
  "  " ++ toString total ++ " declaration" ++ (if total = 1 then "" else "s") ++ "\n"

/-- The line of one heading. -/
def headingLine (row : String × Nat) : String :=
  "    " ++ row.1 ++ ": " ++ toString row.2 ++ "\n"

/-- The total, and below it one line for each heading. -/
def summary (declarations : List Declaration) : String :=
  totalLine declarations.length ++ String.join ((count declarations).map headingLine)

end Census

end DeclGen
