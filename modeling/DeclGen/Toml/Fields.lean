import DeclGen.Toml.KeyPath

/-!
Fields of tables that are being read.

A table can be written in pieces, by headers and by dotted keys; the rules for what may be added
to what are all here.
-/

namespace DeclGen.Toml

/-- Changes the field of a name, or adds it last; the change sees whether it is there. -/
def alter (name : String) (change : Option (Key Place × Draft) → Option (Key Place × Draft)) :
    Fields → Option Fields
  | [] => (change none).map ([·])
  | field :: rest =>
    if field.1.name = name then (change (some field)).map (· :: rest)
    else (alter name change rest).map (field :: ·)

/-- How a path leads into a table. -/
inductive Route where
  /-- As the path of a header. -/
  | header
  /-- As a dotted key. -/
  | dotted
  deriving DecidableEq, Repr

/-- The status of a table that a path leads through and that was not there before. -/
def Route.fresh : Route → Status
  | .header => .implied
  | .dotted => .dotted

/-- Whether a path may lead through a table; dotted keys may not add to one that has a header. -/
def Route.admits : Route → Status → Bool
  | _, .closed => false
  | .dotted, .opened => false
  | _, _ => true

/-- Changes the fields of the table that a value stands for, the last one of an array of tables. -/
def enter (route : Route) (change : Status → Fields → Option Fields) : Draft → Option Draft
  | .table place fields =>
    if route.admits place.status then (change place.status fields).map (.table place) else none
  -- A path goes on into the last table of an array that headers made.
  | .sequence place items =>
    match place.status, items.getLast? with
    | .opened, some (.table last fields) =>
      (change last.status fields).map fun fields =>
        .sequence place (items.dropLast ++ [.table last fields])
    | _, _ => none
  | _ => none

/-- Changes the fields of the table at the end of a path, and makes what is missing on the way. -/
def descend (route : Route) (change : Status → Fields → Option Fields) :
    List (Key Place) → Status → Fields → Option Fields
  | [], status, fields => change status fields
  | key :: path, _, fields =>
    fields |> alter key.name fun
      -- What is missing on the way is made, and stays open for paths of the same sort.
      | none => (descend route change path route.fresh []).map fun inner =>
          (key, .table ⟨key.label.region, route.fresh⟩ inner)
      | some (found, value) => (enter route (descend route change path) value).map (found, ·)

/--
Gives a value to a key, which may be dotted, in a table.

A dotted key ends in a table that only dotted keys made, a plain one in a table of any other sort.
-/
def assign (path : KeyPath) (value : Draft) : Status → Fields → Option Fields :=
  path.parents |> descend .dotted fun status fields =>
    if (status = .dotted) = (path.parents ≠ []) then
      fields |> alter path.last.name fun
        | none => some (path.last, value)
        | some _ => none
    else none

/-- Opens a table at a path; one that headers passed through keeps what they added. -/
def openTable (region : Region) (path : KeyPath) : Status → Fields → Option Fields :=
  path.parents |> descend .header fun _ fields =>
    fields |> alter path.last.name fun
      | none => some (path.last, .table ⟨region, .opened⟩ [])
      -- The table was passed through only, and takes its label from its own header now.
      | some (_, .table ⟨_, .implied⟩ inner) => some (path.last, .table ⟨region, .opened⟩ inner)
      | some _ => none

/-- Adds a table to the array of tables at a path. -/
def openItem (region : Region) (path : KeyPath) : Status → Fields → Option Fields :=
  path.parents |> descend .header fun _ fields =>
    fields |> alter path.last.name fun
      | none => some (path.last, .sequence ⟨region, .opened⟩ [.table ⟨region, .opened⟩ []])
      -- The array keeps its first label, and each table has that of its own header.
      | some (key, .sequence ⟨first, .opened⟩ items) =>
        some (key, .sequence ⟨first, .opened⟩ (items ++ [.table ⟨region, .opened⟩ []]))
      | some _ => none

end DeclGen.Toml
