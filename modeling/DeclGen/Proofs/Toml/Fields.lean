import DeclGen.Proofs.Placed
import DeclGen.Proofs.Text.Region
import DeclGen.Proofs.Toml.WholeLiteral
import DeclGen.Toml.Fields

/-! Tables written in pieces: what is added to one stands in the text, if the piece does. -/

namespace DeclGen.Toml

/-- A key that is written in a source. -/
def KeyIn (source : List Char) (key : Key Place) : Prop :=
  key.label.region.Within source

/-- A value that is written in a source, each of its texts as a literal. -/
def DraftIn (source : List Char) (draft : Draft) : Prop :=
  draft.Placed (fun place => place.region.Within source)
    fun place value => IsLiteral place.region.text value

/-- Fields whose keys and values are written in a source. -/
def FieldsIn (source : List Char) (fields : Fields) : Prop :=
  ∀ field ∈ fields, KeyIn source field.1 ∧ DraftIn source field.2

/-- A change of fields after which they are written in a source, if they were before. -/
def Adds (source : List Char) (change : Status → Fields → Option Fields) : Prop :=
  ∀ status fields changed, FieldsIn source fields → change status fields = some changed →
    FieldsIn source changed

variable {source : List Char}

/-- A table is written where its fields are, and where it stands itself. -/
theorem draftIn_table_iff {place : Place} {fields : Fields} :
    DraftIn source (.table place fields) ↔ place.region.Within source ∧ FieldsIn source fields :=
  Tree.placed_table_iff

/-- Values in a row are written where the items are, and where the row itself stands. -/
theorem draftIn_sequence_iff {place : Place} {items : List Draft} :
    DraftIn source (.sequence place items) ↔
      place.region.Within source ∧ ∀ item ∈ items, DraftIn source item :=
  Tree.placed_sequence_iff

/-- One changed or added field leaves the others where they are. -/
theorem fieldsIn_of_alter {name : String}
    {change : Option (Key Place × Draft) → Option (Key Place × Draft)} {fields changed : Fields}
    (added : ∀ field, change none = some field → KeyIn source field.1 ∧ DraftIn source field.2)
    (replaced : ∀ old field, KeyIn source old.1 → DraftIn source old.2 →
      change (some old) = some field → KeyIn source field.1 ∧ DraftIn source field.2)
    (inside : FieldsIn source fields) (altered : alter name change fields = some changed) :
    FieldsIn source changed := by
  induction fields generalizing changed with
  | nil =>
    -- The name was not found, so a field is added behind all others.
    obtain ⟨field, new, rfl⟩ := Option.map_eq_some_iff.mp altered
    simpa [FieldsIn] using added field new
  | cons first rest ih =>
    obtain ⟨here, behind⟩ := List.forall_mem_cons.mp inside
    rw [alter] at altered
    by_cases named : first.1.name = name
    · rw [if_pos named] at altered
      obtain ⟨field, new, rfl⟩ := Option.map_eq_some_iff.mp altered
      exact List.forall_mem_cons.mpr ⟨replaced first field here.1 here.2 new, behind⟩
    · rw [if_neg named] at altered
      obtain ⟨others, later, rfl⟩ := Option.map_eq_some_iff.mp altered
      exact List.forall_mem_cons.mpr ⟨here, ih behind later⟩

/-- A change of the fields of a table leaves the value that holds it in the source. -/
theorem draftIn_of_enter {route : Route} {change : Status → Fields → Option Fields}
    {draft entered : Draft} (adds : Adds source change) (inside : DraftIn source draft)
    (done : enter route change draft = some entered) : DraftIn source entered := by
  cases draft with
  | table place fields =>
    obtain ⟨here, within⟩ := draftIn_table_iff.mp inside
    rw [enter] at done
    split at done
    · obtain ⟨changed, run, rfl⟩ := Option.map_eq_some_iff.mp done
      exact draftIn_table_iff.mpr ⟨here, adds _ _ _ within run⟩
    · contradiction
  | sequence place items =>
    obtain ⟨here, each⟩ := draftIn_sequence_iff.mp inside
    rw [enter] at done
    split at done
    next last fields _ final =>
      -- Only the last table of the array changes, which is one of its items.
      obtain ⟨changed, run, rfl⟩ := Option.map_eq_some_iff.mp done
      obtain ⟨there, within⟩ := draftIn_table_iff.mp (each _ (List.mem_of_getLast? final))
      have table := draftIn_table_iff.mpr ⟨there, adds _ _ _ within run⟩
      refine draftIn_sequence_iff.mpr ⟨here, fun item member => ?_⟩
      rcases List.mem_append.mp member with before | behind
      · exact each item (List.mem_of_mem_dropLast before)
      · exact List.mem_singleton.mp behind ▸ table
    next => contradiction
  | null label => cases done
  | boolean label value => cases done
  | integer label value => cases done
  | float label value => cases done
  | valueless label => cases done
  | text label value => cases done
  | moment label => cases done

/-- What a path leads to may change, and what it makes on the way stands where its keys do. -/
theorem adds_descend {route : Route} {change : Status → Fields → Option Fields}
    {path : List (Key Place)} (keys : ∀ key ∈ path, KeyIn source key)
    (adds : Adds source change) : Adds source (descend route change path) := by
  induction path with
  | nil => exact adds
  | cons key path ih =>
    obtain ⟨here, behind⟩ := List.forall_mem_cons.mp keys
    intro status fields changed inside done
    rw [descend] at done
    refine fieldsIn_of_alter (fun field made => ?_) (fun old field found value made => ?_) inside
      done
    · -- A table that is missing starts without fields, at the key that leads to it.
      obtain ⟨inner, run, rfl⟩ := Option.map_eq_some_iff.mp made
      have table := ih behind _ _ _ (List.forall_mem_nil _) run
      exact ⟨here, draftIn_table_iff.mpr ⟨here, table⟩⟩
    · obtain ⟨entered, run, rfl⟩ := Option.map_eq_some_iff.mp made
      exact ⟨found, draftIn_of_enter (ih behind) value run⟩

/-- A path of keys that are all written in a source. -/
def PathIn (source : List Char) (path : KeyPath) : Prop :=
  ∀ key ∈ path.keys, KeyIn source key

/-- The keys of a path are those it passes through and its last one. -/
theorem pathIn_iff {path : KeyPath} :
    PathIn source path ↔ (∀ key ∈ path.parents, KeyIn source key) ∧ KeyIn source path.last := by
  simp only [PathIn, KeyPath.keys, List.forall_mem_append, List.forall_mem_singleton]

/-- A value that is given to a key is written where both of them are. -/
theorem adds_assign {path : KeyPath} {value : Draft} (keys : PathIn source path)
    (inside : DraftIn source value) : Adds source (assign path value) := by
  obtain ⟨parents, last⟩ := pathIn_iff.mp keys
  refine adds_descend parents fun status fields changed within done => ?_
  split at done
  · refine fieldsIn_of_alter (fun field made => ?_) (fun old field _ _ made => ?_) within done
    · cases made
      exact ⟨last, inside⟩
    -- A key that has a value cannot be given another one.
    · cases made
  · contradiction

/-- The header of a table stands where the table does. -/
theorem adds_openTable {region : Region} {path : KeyPath} (here : region.Within source)
    (keys : PathIn source path) : Adds source (openTable region path) := by
  obtain ⟨parents, last⟩ := pathIn_iff.mp keys
  refine adds_descend parents fun status fields changed within done => ?_
  refine fieldsIn_of_alter (fun field made => ?_) (fun old field _ value made => ?_) within done
  · cases made
    exact ⟨last, draftIn_table_iff.mpr ⟨here, List.forall_mem_nil _⟩⟩
  · -- A table that headers passed through keeps its fields, and moves to its own header.
    split at made
    · contradiction
    next same =>
      cases same
      cases made
      exact ⟨last, draftIn_table_iff.mpr ⟨here, (draftIn_table_iff.mp value).2⟩⟩
    · contradiction

/-- The header of one more table of an array stands where that table does. -/
theorem adds_openItem {region : Region} {path : KeyPath} (here : region.Within source)
    (keys : PathIn source path) : Adds source (openItem region path) := by
  obtain ⟨parents, last⟩ := pathIn_iff.mp keys
  -- The new table has no fields yet, whether it starts the array or is added to it.
  have table : DraftIn source (.table ⟨region, .opened⟩ []) :=
    draftIn_table_iff.mpr ⟨here, List.forall_mem_nil _⟩
  refine adds_descend parents fun status fields changed within done => ?_
  refine fieldsIn_of_alter (fun field made => ?_) (fun old field found value made => ?_) within done
  · cases made
    exact ⟨last, draftIn_sequence_iff.mpr ⟨here, List.forall_mem_singleton.mpr table⟩⟩
  · split at made
    · contradiction
    next same =>
      cases same
      cases made
      obtain ⟨first, items⟩ := draftIn_sequence_iff.mp value
      exact ⟨found, draftIn_sequence_iff.mpr ⟨first,
        List.forall_mem_append.mpr ⟨items, List.forall_mem_singleton.mpr table⟩⟩⟩
    · contradiction

/-- What every step keeps, a run of steps that can fail keeps. -/
theorem keeps_of_foldlM {ι σ : Type} {Kept : σ → Prop} {step : σ → ι → Option σ} {items : List ι}
    (each : ∀ item ∈ items, ∀ state next, Kept state → step state item = some next → Kept next)
    {start last : σ} (first : Kept start) (run : items.foldlM step start = some last) :
    Kept last := by
  induction items generalizing start with
  | nil =>
    cases run
    exact first
  | cons item items ih =>
    -- The step in hand keeps it, and the rest of the run starts from there.
    obtain ⟨next, taken, later⟩ := Option.bind_eq_some_iff.mp run
    have kept := each item (by simp) start next first taken
    exact ih (fun other member => each other (by simp [member])) kept later

end DeclGen.Toml
