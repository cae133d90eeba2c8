import DeclGen.Proofs.Schema.Keys
import DeclGen.Proofs.Tree
import DeclGen.Schema.Record

/-! Labels have no say in what is read as a record: they only tell where a fault is. -/

namespace DeclGen.Schema

variable {L M R S α β : Type} {f : L → M} {g : R → S}

/-- What a value is found as has nothing to do with its labels. -/
@[simp] theorem found_map (f : L → M) (value : Tree L) : found (value.map f) = found value := by
  cases value <;> rfl

/-- What came of reading, with other labels and another view of the result. -/
def carry (f : L → M) (g : α → β) : Except (Fault L) α → Except (Fault M) β
  | .ok result => .ok (g result)
  | .error fault => .error (fault.map f)

/-- What is accepted under other labels is accepted under these. -/
theorem exists_of_carry_eq_ok {run : Except (Fault L) R} {result : S}
    (accepted : carry f g run = .ok result) : ∃ content, run = .ok content := by
  cases run with
  | error fault => cases accepted
  | ok content => exact ⟨content, rfl⟩

/-- What is refused under other labels is refused under these for the same problem. -/
theorem exists_of_carry_eq_error {run : Except (Fault L) R} {fault : Fault M}
    (refused : carry f g run = .error fault) :
    ∃ here, run = .error here ∧ here.problem = fault.problem := by
  cases run with
  | error here =>
    simp only [carry, Except.error.injEq] at refused
    exact ⟨here, rfl, congrArg Fault.problem refused⟩
  | ok content => cases refused

/-- What is accepted under other labels is what is accepted under these. -/
theorem toOption_carry (run : Except (Fault L) R) :
    (carry f g run).toOption = run.toOption.map g := by
  cases run <;> rfl

/-- A value of another type is refused under any labels. -/
theorem mismatch_map (g : α → β) (expected : Expected) (value : Tree L) :
    mismatch expected (value.map f) = carry f g (mismatch expected value) := by
  simp [mismatch, carry, Fault.map]

/-- Steps that commute with a view of the state make runs that do. -/
theorem foldlM_carry {ι κ : Type} {step : R → ι → Except (Fault L) R}
    {step' : S → κ → Except (Fault M) S} {view : ι → κ} {items : List ι}
    (each : ∀ item ∈ items, ∀ record, step' (g record) (view item) = carry f g (step record item))
    (start : R) :
    (items.map view).foldlM step' (g start) = carry f g (items.foldlM step start) := by
  -- The step in hand is carried, and what it leaves behind is where the rest starts.
  induction items generalizing start with
  | nil => rfl
  | cons item items ih =>
    have later := ih fun other member => each other (by simp [member])
    rw [List.map_cons, List.foldlM_cons, List.foldlM_cons, each item (by simp)]
    cases step start item with
    | error fault => rfl
    | ok next => exact later next

/-- Values that are read alike under other labels are read alike in a row. -/
theorem mapM_carry {ι κ : Type} {read : ι → Except (Fault L) α} {read' : κ → Except (Fault M) β}
    {view : ι → κ} {h : α → β} (each : ∀ item, read' (view item) = carry f h (read item))
    (items : List ι) : (items.map view).mapM read' = carry f (List.map h) (items.mapM read) := by
  induction items with
  | nil => rfl
  | cons item items ih =>
    -- The first fault ends both runs, so the rest matters only behind a result.
    rw [List.map_cons, List.mapM_cons, List.mapM_cons, each item, ih]
    cases read item with
    | error fault => rfl
    | ok result => cases items.mapM read <;> rfl

/-- A field enters what it reads under other labels into a view of the record. -/
structure Field.Carries (f : L → M) (g : R → S) (field : Field L R) (other : Field M S) : Prop where
  /-- Both have the same key. -/
  name : field.name = other.name
  /-- Both enter the same value. -/
  put : ∀ label value record,
    other.put (f label) (value.map f) (g record) = carry f g (field.put label value record)

/-- A record enters what it reads under other labels into a view of itself. -/
structure Record.Carries (f : L → M) (g : R → S) (shape : Record L R) (other : Record M S) :
    Prop where
  /-- Both are told about alike. -/
  expected : shape.expected = other.expected
  /-- Each field has its counterpart. -/
  fields : List.Forall₂ (Field.Carries f g) shape.fields other.fields
  /-- Both take the same keys. -/
  strict : shape.strict = other.strict

/-- The pairs of a table are visited in the same order whatever the labels are. -/
theorem sortedByKey_map (pairs : List (Key L × Tree L)) :
    sortedByKey (pairs.map (Tree.mapField f)) = (sortedByKey pairs).map (Tree.mapField f) :=
  -- The order looks at names only, and these are kept.
  sortedByKey_map_of_names (Tree.mapField f) (fun _ => rfl) pairs

namespace Record.Carries

variable {shape : Record L R} {other : Record M S}

/-- A pair of a table is entered alike. -/
theorem putPair (carries : shape.Carries f g other) (record : R) (pair : Key L × Tree L) :
    other.putPair (g record) (Tree.mapField f pair) = carry f g (shape.putPair record pair) := by
  obtain ⟨key, value⟩ := pair
  -- Names are kept, so both look for the same key.
  change other.putPair (g record) (⟨key.name, f key.label⟩, value.map f) = _
  have named := names_of_forall₂ carries.fields fun _ _ same => same.name
  unfold Record.putPair
  rcases find?_of_forall₂ carries.fields (fun _ _ same => same.name) key.name with
    ⟨missing, missing'⟩ | ⟨field, field', found, found', same⟩
  · simp only [missing, missing', carries.strict, named, Tree.skippable_map, Tree.label_map]
    by_cases strict : other.strict = true
    · simp [strict, carry, Fault.map]
    -- What is skipped has to have a value, which no label changes.
    · by_cases valued : value.skippable = true <;> simp [strict, valued, carry, Fault.map]
  · simp only [found, found', Tree.label_map]
    exact same.put _ _ _

/-- The items of a row are entered alike. -/
theorem putItem (carries : shape.Carries f g other) (label : L) (items : List (Tree L))
    (start : R) :
    (other.fields.zip (items.map (Tree.map f))).foldlM (Record.putItem (f label)) (g start) =
      carry f g ((shape.fields.zip items).foldlM (Record.putItem label) start) := by
  -- Fields and items are taken in step.
  have paired := carries.fields
  generalize shape.fields = fields at paired
  generalize other.fields = fields' at paired
  induction paired generalizing items start with
  | nil => rfl
  | cons same _ ih =>
    cases items with
    | nil => rfl
    | cons item items =>
      rw [List.map_cons, List.zip_cons_cons, List.zip_cons_cons, List.foldlM_cons, List.foldlM_cons,
        Record.putItem, same.put label item start]
      simp only [Record.putItem]
      cases Field.put _ label item start with
      | error fault => rfl
      | ok next => exact ih items next

/-- A record is read alike. -/
theorem read (carries : shape.Carries f g other) (start : R) (value : Tree L) :
    other.read (g start) (value.map f) = carry f g (shape.read start value) := by
  -- A mismatch names the type and carries the label, and both records expect the same type.
  have wrongType : ∀ value : Tree L, mismatch other.expected (value.map f) =
      carry f g (mismatch shape.expected value) := by
    rw [carries.expected]
    exact mismatch_map g _
  cases value with
  | table label pairs =>
    rw [Tree.map, Tree.mapFields_eq_map, Record.read, Record.read, sortedByKey_map]
    exact foldlM_carry (fun pair _ record => carries.putPair record pair) start
  | moment label => exact carries.putPair start (⟨momentKey, label⟩, .text label "")
  | sequence label items =>
    rw [Tree.map, Tree.mapItems_eq_map, Record.read, Record.read]
    exact carries.putItem label items start
  | null label => exact wrongType _
  | boolean label value => exact wrongType _
  | integer label value => exact wrongType _
  | float label value => exact wrongType _
  | valueless label => exact wrongType _
  | text label value => exact wrongType _

end Record.Carries

end DeclGen.Schema
