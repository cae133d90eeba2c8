import DeclGen.Proofs.KeyOrder
import DeclGen.Toml.Soundness

/-! Whether a document can be read without a schema: neither labels nor the order of keys decide. -/

namespace DeclGen.Toml

open DeclGen.Tree (inOrder inOrderFields inOrderItems mapFields mapItems)

variable {L M : Type}

section Labels

variable (f : L → M)

/-- The first of all keys is the same under any labels. -/
theorem momentField?_mapFields (fields : List (Key L × Tree L)) :
    momentField? (mapFields f fields) = (momentField? fields).map (Tree.map f) := by
  -- Relabelling keeps the names, and the key of a moment is found by names alone.
  have first : (mapFields f fields).all (momentKey ≤ ·.1.name) =
      fields.all (momentKey ≤ ·.1.name) := by
    rw [Tree.mapFields_eq_map, List.all_map]
    rfl
  rw [momentField?, momentField?, first, Tree.find?_mapFields]
  split
  · cases fields.find? (·.1.name = momentKey) <;> rfl
  · rfl

mutual

/-- A value can be read without a schema under any labels. -/
theorem isSound_map (value : Tree L) : isSound (value.map f) = isSound value := by
  -- A table whose first key is that of a moment is judged by its value, any other by its fields.
  cases value with
  | sequence label items => exact areItemsSound_mapItems items
  | table label fields =>
    simp only [Tree.map, isSound, momentField?_mapFields]
    cases momentField? fields with
    | none => exact areFieldsSound_mapFields fields
    | some value => cases value <;> rfl
  | null label => rfl
  | boolean label value => rfl
  | integer label value => rfl
  | float label value => rfl
  | valueless label => rfl
  | text label value => rfl
  | moment label => rfl

/-- Items are as sound under other labels. -/
theorem areItemsSound_mapItems (items : List (Tree L)) :
    areItemsSound (mapItems f items) = areItemsSound items := by
  cases items with
  | nil => rfl
  | cons item rest =>
    simp only [mapItems, areItemsSound, isSound_map item, areItemsSound_mapItems rest]

/-- Fields are as sound under other labels. -/
theorem areFieldsSound_mapFields (fields : List (Key L × Tree L)) :
    areFieldsSound (mapFields f fields) = areFieldsSound fields := by
  cases fields with
  | nil => rfl
  | cons field rest =>
    simp only [mapFields, areFieldsSound, isSound_map field.2, areFieldsSound_mapFields rest]

end

/-- A document can be read without a schema under any labels. -/
theorem isSoundDocument_map (value : Tree L) :
    isSoundDocument (value.map f) = isSoundDocument value := by
  -- The table of a document is judged by its fields, even if one of them has the key of a moment.
  cases value with
  | table label fields => exact areFieldsSound_mapFields f fields
  | null label => rfl
  | boolean label value => rfl
  | integer label value => rfl
  | float label value => rfl
  | valueless label => rfl
  | text label value => rfl
  | moment label => rfl
  | sequence label items => exact isSound_map f (.sequence label items)

end Labels

section Order

/-- The first of all keys is the same in any order. -/
theorem momentField?_inOrderFields (fields : List (Key L × Tree L)) :
    momentField? (inOrderFields fields) = (momentField? fields).map inOrder := by
  -- Putting fields in order permutes them, and a field is found by its name.
  have first : (inOrderFields fields).all (momentKey ≤ ·.1.name) =
      fields.all (momentKey ≤ ·.1.name) := by
    rw [Tree.inOrderFields_eq_sortedByKey, (Schema.perm_sortedByKey _).all_eq, List.all_map]
    rfl
  rw [momentField?, momentField?, first, Tree.find?_inOrderFields]
  split
  · cases fields.find? (·.1.name = momentKey) <;> rfl
  · rfl

/-- Fields can be read without a schema in any order. -/
theorem areFieldsSound_insertByKey (field : Key L × Tree L) (fields : List (Key L × Tree L)) :
    areFieldsSound (Schema.insertByKey field fields) =
      (isSound field.2 && areFieldsSound fields) := by
  induction fields with
  | nil => rfl
  | cons other rest ih =>
    rw [Schema.insertByKey]
    -- The field is put in here, or the other field is judged first.
    split
    · rfl
    · rw [areFieldsSound, ih, areFieldsSound, Bool.and_left_comm]

mutual

/-- A value can be read without a schema in whatever order its keys are. -/
theorem isSound_inOrder (value : Tree L) : isSound value.inOrder = isSound value := by
  -- A table whose first key is that of a moment is judged by its value, any other by its fields.
  cases value with
  | sequence label items => exact areItemsSound_inOrderItems items
  | table label fields =>
    simp only [inOrder, isSound, momentField?_inOrderFields]
    cases momentField? fields with
    | none => exact areFieldsSound_inOrderFields fields
    | some value => cases value <;> rfl
  | null label => rfl
  | boolean label value => rfl
  | integer label value => rfl
  | float label value => rfl
  | valueless label => rfl
  | text label value => rfl
  | moment label => rfl

/-- Items are as sound with their keys in order. -/
theorem areItemsSound_inOrderItems (items : List (Tree L)) :
    areItemsSound (inOrderItems items) = areItemsSound items := by
  cases items with
  | nil => rfl
  | cons item rest =>
    simp only [inOrderItems, areItemsSound, isSound_inOrder item, areItemsSound_inOrderItems rest]

/-- Fields are as sound with their keys in order, since each is looked at by itself. -/
theorem areFieldsSound_inOrderFields (fields : List (Key L × Tree L)) :
    areFieldsSound (inOrderFields fields) = areFieldsSound fields := by
  cases fields with
  | nil => rfl
  | cons field rest =>
    simp only [inOrderFields, areFieldsSound_insertByKey, areFieldsSound, isSound_inOrder field.2,
      areFieldsSound_inOrderFields rest]

end

/-- A document can be read without a schema in whatever order its keys are. -/
theorem isSoundDocument_inOrder (value : Tree L) :
    isSoundDocument value.inOrder = isSoundDocument value := by
  -- The table of a document is judged by its fields, even if one of them has the key of a moment.
  cases value with
  | table label fields => exact areFieldsSound_inOrderFields fields
  | null label => rfl
  | boolean label value => rfl
  | integer label value => rfl
  | float label value => rfl
  | valueless label => rfl
  | text label value => rfl
  | moment label => rfl
  | sequence label items => exact isSound_inOrder (.sequence label items)

end Order

/-- Of two values that are the same, both can be read without a schema or neither can. -/
theorem isSoundDocument_of_sameValue {value : Tree L} {other : Tree M}
    (same : value.sameValue other = true) : isSoundDocument value = isSoundDocument other := by
  have shared := (Tree.sameValue_iff value other).mp same
  rw [Tree.erase, Tree.erase] at shared
  rw [← isSoundDocument_inOrder value, ← isSoundDocument_map (fun _ => ()), shared,
    isSoundDocument_map, isSoundDocument_inOrder]

end DeclGen.Toml
