import DeclGen.Tree

/-! Labels of trees: changing them item by item, twice, and leaving them out. -/

namespace DeclGen.Tree

variable {L M N : Type}

/-- The labels of values in a row are changed value by value. -/
theorem mapItems_eq_map (f : L → M) (items : List (Tree L)) :
    mapItems f items = items.map (map f) := by
  induction items with
  | nil => rfl
  | cons item rest ih => rw [mapItems, ih, List.map_cons]

/-- Changes the labels of a pair of a table. -/
def mapField (f : L → M) (field : Key L × Tree L) : Key M × Tree M :=
  (⟨field.1.name, f field.1.label⟩, field.2.map f)

/-- The labels of a table are changed pair by pair. -/
theorem mapFields_eq_map (f : L → M) (fields : List (Key L × Tree L)) :
    mapFields f fields = fields.map (mapField f) := by
  induction fields with
  | nil => rfl
  | cons field rest ih => rw [mapFields, ih, List.map_cons, mapField]

mutual

/-- Labels can be changed in two steps. -/
theorem map_map (f : L → M) (g : M → N) (value : Tree L) :
    (value.map f).map g = value.map (g ∘ f) := by
  -- Rows and tables go on with their parts; the other values have a label and nothing below it.
  cases value with
  | sequence label items => simp only [map, mapItems_mapItems f g items, Function.comp_apply]
  | table label fields => simp only [map, mapFields_mapFields f g fields, Function.comp_apply]
  | null label => rfl
  | boolean label value => rfl
  | integer label value => rfl
  | float label value => rfl
  | valueless label => rfl
  | text label value => rfl
  | moment label => rfl

/-- Relabelling items twice is relabelling them once. -/
theorem mapItems_mapItems (f : L → M) (g : M → N) (items : List (Tree L)) :
    mapItems g (mapItems f items) = mapItems (g ∘ f) items := by
  cases items with
  | nil => rfl
  | cons item rest => simp only [mapItems, map_map f g item, mapItems_mapItems f g rest]

/-- Relabelling fields twice is relabelling them once. -/
theorem mapFields_mapFields (f : L → M) (g : M → N) (fields : List (Key L × Tree L)) :
    mapFields g (mapFields f fields) = mapFields (g ∘ f) fields := by
  cases fields with
  | nil => rfl
  | cons field rest =>
    simp only [mapFields, map_map f g field.2, mapFields_mapFields f g rest, Function.comp_apply]

end

mutual

/-- A test that has no regard for labels passes all nodes of a value under any labels. -/
theorem all_map {f : L → M} {test : Tree L → Bool} {test' : Tree M → Bool}
    (same : ∀ value, test' (value.map f) = test value) (value : Tree L) :
    (value.map f).all test' = value.all test := by
  -- A test is asked about the value and about everything below it, which only rows and tables have.
  cases value with
  | sequence label items =>
    have here := same (.sequence label items)
    simp only [map] at here
    simp only [map, all, here, allItems_mapItems same items]
  | table label fields =>
    have here := same (.table label fields)
    simp only [map] at here
    simp only [map, all, here, allFields_mapFields same fields]
  | null label => exact same _
  | boolean label value => exact same _
  | integer label value => exact same _
  | float label value => exact same _
  | valueless label => exact same _
  | text label value => exact same _
  | moment label => exact same _

/-- A test that ignores labels holds of the same items under other labels. -/
theorem allItems_mapItems {f : L → M} {test : Tree L → Bool} {test' : Tree M → Bool}
    (same : ∀ value, test' (value.map f) = test value) (items : List (Tree L)) :
    allItems test' (mapItems f items) = allItems test items := by
  cases items with
  | nil => rfl
  | cons item rest =>
    simp only [mapItems, allItems, all_map same item, allItems_mapItems same rest]

/-- A test that ignores labels holds of the same fields under other labels. -/
theorem allFields_mapFields {f : L → M} {test : Tree L → Bool} {test' : Tree M → Bool}
    (same : ∀ value, test' (value.map f) = test value) (fields : List (Key L × Tree L)) :
    allFields test' (mapFields f fields) = allFields test fields := by
  cases fields with
  | nil => rfl
  | cons field rest =>
    simp only [mapFields, allFields, all_map same field.2, allFields_mapFields same rest]

end

/-- All nodes of values in a row pass a test if those of each value do. -/
theorem allItems_iff {test : Tree L → Bool} {items : List (Tree L)} :
    allItems test items = true ↔ ∀ item ∈ items, item.all test = true := by
  induction items with
  | nil => simp [allItems]
  | cons item rest ih => rw [allItems, Bool.and_eq_true, ih, List.forall_mem_cons]

/-- All nodes of values under names pass a test if those of each value do. -/
theorem allFields_iff {test : Tree L → Bool} {fields : List (Key L × Tree L)} :
    allFields test fields = true ↔ ∀ field ∈ fields, field.2.all test = true := by
  induction fields with
  | nil => simp [allFields]
  | cons field rest ih => rw [allFields, Bool.and_eq_true, ih, List.forall_mem_cons]

/-- Whether a value can be skipped has nothing to do with its labels. -/
@[simp] theorem skippable_map (f : L → M) (value : Tree L) :
    (value.map f).skippable = value.skippable :=
  all_map (fun value => by cases value <;> rfl) value

/-- Changed labels say where the value was before. -/
@[simp] theorem label_map (f : L → M) (value : Tree L) : (value.map f).label = f value.label := by
  cases value <;> rfl

/-- A value without its labels. -/
def erase (value : Tree L) : Tree Unit := value.map fun _ => ()

/-- Changed labels leave no trace once all labels are left out. -/
theorem erase_map (f : L → M) (value : Tree L) : (value.map f).erase = value.erase :=
  map_map f _ value

end DeclGen.Tree
