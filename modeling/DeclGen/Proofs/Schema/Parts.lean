import DeclGen.Proofs.Schema.Keys
import DeclGen.Schema.Manifest

/-!
The records that a manifest is made of, and the places at which they stand.

A manifest is read through each of its records: what comes of the whole depends on what comes of the
part, and on what is around it.
-/

namespace DeclGen.Schema

variable {L R α β : Type}

/-- A sort of record in a manifest. -/
inductive Part where
  | manifest
  | settings
  | entry
  | member
  deriving DecidableEq, Repr

namespace Part

/-- What a record of a sort is read as. -/
def Content : Part → Type
  | manifest => Manifest
  | settings => Settings
  | entry => Entry
  | member => Member

/-- The fields of a record, in declared order. -/
def fields : Part → List String
  | manifest => ["config", "declarations"]
  | settings => ["block_wrapper", "enum_name_value_separator", "indent"]
  | entry => ["kind", "name", "generics", "decorator", "content", "block", "method",
      "ignore_block_wrapper", "comment", "members"]
  | member => ["name", "value", "comment"]

/-- Reads a record as it is read within a manifest. -/
def read (locate : L → Span) : (part : Part) → Tree L → Except (Fault L) part.Content
  | manifest => readManifest locate
  | settings => readSettings .ignored
  | entry => readEntry locate
  | member => readMember .ignored

end Part

/-- What stands around the value of a field, in a record that is a table or a row. -/
inductive Surroundings (L : Type) where
  | table (label : L) (front : List (Key L × Tree L)) (key : Key L)
      (behind : List (Key L × Tree L))
  | row (label : L) (front behind : List (Tree L))

namespace Surroundings

/-- The record with a value in its place. -/
def fill : Surroundings L → Tree L → Tree L
  | table label front key behind, value => .table label (front ++ (key, value) :: behind)
  | row label front behind, value => .sequence label (front ++ value :: behind)

/-- Whether the place is that of a field, by its key or by its position. -/
def IsField (name : String) (index : Nat) : Surroundings L → Prop
  | table _ _ key _ => key.name = name
  | row _ front _ => front.length = index

end Surroundings

/-- The place of a record in a manifest, with all that is around it. -/
inductive Place (L : Type) : Part → Type where
  /-- The place of the whole. -/
  | root : Place L .manifest
  /-- The place of the settings. -/
  | settings (around : Surroundings L) (config : around.IsField "config" 0) : Place L .settings
  /-- The place of one of the entries. -/
  | entry (around : Surroundings L) (declarations : around.IsField "declarations" 1) (label : L)
      (front behind : List (Tree L)) : Place L .entry
  /-- The place of one of the members of an entry. -/
  | member (outer : Place L .entry) (around : Surroundings L)
      (members : around.IsField "members" 9) (label : L) (front behind : List (Tree L)) :
      Place L .member

/-- The manifest with a record in its place. -/
def Place.fill {part : Part} : Place L part → Tree L → Tree L
  | .root, value => value
  | .settings around _, value => around.fill value
  | .entry around _ label front behind, value =>
    around.fill (.sequence label (front ++ value :: behind))
  | .member outer around _ label front behind, value =>
    outer.fill (around.fill (.sequence label (front ++ value :: behind)))

/-- A whole is read through a part of it: between two steps that the part has no say in. -/
def ReadsThrough (outer : Tree L → Except (Fault L) β) (inner : Tree L → Except (Fault L) α)
    (fill : Tree L → Tree L) : Prop :=
  ∃ (State : Type) (before : Except (Fault L) State)
    (after : State → α → Except (Fault L) β),
    ∀ value, outer (fill value) = before >>= fun state => inner value >>= after state

namespace ReadsThrough

variable {γ : Type} {outer : Tree L → Except (Fault L) β} {inner : Tree L → Except (Fault L) α}
  {fill : Tree L → Tree L}

/-- A whole is read through itself. -/
theorem refl (read : Tree L → Except (Fault L) α) : ReadsThrough read read id :=
  ⟨Unit, pure (), fun _ => pure, fun value => (bind_pure (read value)).symm⟩

/-- What is read through a part is read through the parts of that part. -/
theorem trans {core : Tree L → Except (Fault L) γ} {fill' : Tree L → Tree L}
    (through : ReadsThrough outer inner fill) (within : ReadsThrough inner core fill') :
    ReadsThrough outer core (fill ∘ fill') := by
  obtain ⟨State, before, after, whole⟩ := through
  obtain ⟨State', before', after', part⟩ := within
  -- Both beginnings come first, one after the other, and both endings last.
  refine ⟨State × State', (before >>= fun state => before' >>= fun state' => pure (state, state')),
    fun states content => after' states.2 content >>= after states.1, fun value => ?_⟩
  simp only [Function.comp_apply, whole, part, bind_assoc, pure_bind]

/-- Parts that are read alike make wholes that are. -/
theorem congr (through : ReadsThrough outer inner fill) {value other : Tree L}
    (same : inner value = inner other) : outer (fill value) = outer (fill other) := by
  obtain ⟨State, before, after, whole⟩ := through
  rw [whole, whole, same]

/-- Parts that are read as the same record, or both refused, make wholes that are. -/
theorem toOption_congr (through : ReadsThrough outer inner fill) {value other : Tree L}
    (same : (inner value).toOption = (inner other).toOption) :
    (outer (fill value)).toOption = (outer (fill other)).toOption := by
  obtain ⟨State, before, after, whole⟩ := through
  rw [whole, whole]
  -- What is read before the part does not depend on it, and what comes after needs its content.
  cases before with
  | error fault => rfl
  | ok state =>
    cases one : inner value <;> cases two : inner other <;>
      simp_all [Except.toOption, Bind.bind, Except.bind]

/-- A whole that is accepted is refused for a fault that a part of it is given. -/
theorem error_of_ok (through : ReadsThrough outer inner fill) {value other : Tree L}
    {fault : Fault L} {result : β} (accepted : outer (fill value) = .ok result)
    (refused : inner other = .error fault) : outer (fill other) = .error fault := by
  -- The part is reached in both cases, as what is read before it does not look at it.
  obtain ⟨State, before, after, whole⟩ := through
  rw [whole] at accepted
  rw [whole, refused]
  cases before with
  | error fault => cases accepted
  | ok state => rfl

/-- A whole is accepted only with its part. -/
theorem exists_of_ok (through : ReadsThrough outer inner fill) {value : Tree L} {result : β}
    (accepted : outer (fill value) = .ok result) : ∃ content, inner value = .ok content := by
  obtain ⟨State, before, after, whole⟩ := through
  rw [whole] at accepted
  -- Nothing is accepted as a whole that fails before the part or in it.
  cases before with
  | error fault => cases accepted
  | ok state =>
    cases taken : inner value with
    | error fault => simp [taken, Bind.bind, Except.bind] at accepted
    | ok content => exact ⟨content, rfl⟩

/-- A whole is refused with its part. -/
theorem toOption_eq_none (through : ReadsThrough outer inner fill) {value : Tree L}
    (refused : (inner value).toOption = none) : (outer (fill value)).toOption = none := by
  cases taken : outer (fill value) with
  | error fault => rfl
  | ok result =>
    obtain ⟨content, part⟩ := through.exists_of_ok taken
    simp [part, Except.toOption] at refused

end ReadsThrough

/-- A record is read through the value of a field. -/
theorem readsThrough_field (shape : Record L R) (fields : List (Field L R))
    {fields' : List (Field L R)} {name : String}
    {read : Tree L → Except (Fault L) α} {enter : R → α → R}
    (parts : shape.fields =
      fields ++ ⟨name, fun _ value record => do return enter record (← read value)⟩ :: fields')
    (first : ∀ field ∈ fields, field.name ≠ name) {around : Surroundings L}
    (place : around.IsField name fields.length) (start : R) :
    ReadsThrough (shape.read start) read around.fill := by
  cases around with
  | table label front key behind =>
    obtain ⟨lower, upper, -, sorted⟩ := exists_sortedByKey_append_cons name front behind
    have found : shape.fields.find? (·.name = key.name) =
        some ⟨name, fun _ value record => do return enter record (← read value)⟩ := by
      have before : fields.find? (·.name = name) = none := by simpa using first
      rw [place, parts, List.find?_append, before, Option.none_or, List.find?_cons_of_pos (by simp)]
    -- The pair is visited between those that are sorted below it and those above it.
    refine ⟨R, lower.foldlM shape.putPair start,
      fun record content => upper.foldlM shape.putPair (enter record content), fun value => ?_⟩
    rw [Surroundings.fill, Record.read, sorted (key, value) place, List.foldlM_append]
    congr 1
    funext record
    rw [List.foldlM_cons, Record.putPair, found]
    simp only [bind_assoc, pure_bind]
  | row label front behind =>
    -- The items in front of it fall to the fields in front, and those behind to the others.
    refine ⟨R, (fields.zip front).foldlM (Record.putItem label) start, fun record content =>
      (fields'.zip behind).foldlM (Record.putItem label) (enter record content), fun value => ?_⟩
    rw [Surroundings.fill, Record.read, parts, List.zip_append place.symm, List.zip_cons_cons,
      List.foldlM_append]
    congr 1
    funext record
    rw [List.foldlM_cons, Record.putItem]
    simp only [bind_assoc, pure_bind]

/-- Values in a row are read through each of them. -/
theorem readsThrough_item (read : Tree L → Except (Fault L) α) (label : L)
    (front behind : List (Tree L)) :
    ReadsThrough (readEach read) read fun value => .sequence label (front ++ value :: behind) := by
  refine ⟨List α, front.mapM read, fun contents content => do
    return contents ++ content :: (← behind.mapM read), fun value => ?_⟩
  rw [readEach, List.mapM_append, List.mapM_cons]
  simp only [bind_assoc, pure_bind]

/-- A manifest is read through its settings. -/
theorem readsThrough_config (locate : L → Span) {around : Surroundings L}
    (config : around.IsField "config" 0) :
    ReadsThrough (readManifest locate) (readSettings .ignored) around.fill :=
  readsThrough_field (manifestRecord locate) [] rfl (by simp) config {}

/-- A manifest is read through its entries. -/
theorem readsThrough_declarations (locate : L → Span) {around : Surroundings L}
    (declarations : around.IsField "declarations" 1) :
    ReadsThrough (readManifest locate) (readEach (readEntry locate)) around.fill :=
  readsThrough_field (manifestRecord locate) ((manifestRecord locate).fields.take 1) rfl
    (by simp [manifestRecord]) declarations {}

/-- An entry is read through its members. -/
theorem readsThrough_members (locate : L → Span) {around : Surroundings L}
    (members : around.IsField "members" 9) :
    ReadsThrough (readEntry locate) (readEach (readMember .ignored)) around.fill :=
  readsThrough_field (entryRecord locate) ((entryRecord locate).fields.take 9) rfl
    (by simp [entryRecord, textField]) members {}

/-- A manifest is read through the record at any of its places. -/
theorem Place.readsThrough (locate : L → Span) {part : Part} (place : Place L part) :
    ReadsThrough (readManifest locate) (part.read locate) place.fill := by
  -- Each place is one step further in than the place around it, and steps compose.
  induction place with
  | root => exact .refl _
  | settings around config => exact readsThrough_config locate config
  | entry around declarations label front behind =>
    exact (readsThrough_declarations locate declarations).trans
      (readsThrough_item _ label front behind)
  | member outer around members label front behind within =>
    exact (within.trans (readsThrough_members locate members)).trans
      (readsThrough_item _ label front behind)

end DeclGen.Schema
