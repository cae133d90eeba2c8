import DeclGen.Proofs.Schema.Keys
import DeclGen.Proofs.Tree

/-!
Values that are the same up to the order of keys, and the one form in order that they share.

Pairs of different keys can be sorted in either order, so each table has one form only.
-/

namespace DeclGen

namespace Tree

open Schema (insertByKey sortedByKey)

variable {L M : Type}

mutual

/-- The value with the fields of every table in the order of their keys. -/
def inOrder : Tree L → Tree L
  | .sequence label items => .sequence label (inOrderItems items)
  | .table label fields => .table label (inOrderFields fields)
  | value => value

/-- Values in a row, each with its tables in order. -/
def inOrderItems : List (Tree L) → List (Tree L)
  | [] => []
  | item :: rest => item.inOrder :: inOrderItems rest

/-- The fields of a table in the order of their keys, each with its tables in order. -/
def inOrderFields : List (Key L × Tree L) → List (Key L × Tree L)
  | [] => []
  | (key, value) :: rest => insertByKey (key, value.inOrder) (inOrderFields rest)

end

/-- A field with the tables of its value in order. -/
def inOrderField (field : Key L × Tree L) : Key L × Tree L := (field.1, field.2.inOrder)

/-- Each item of a list is put in order by itself. -/
theorem inOrderItems_eq_map (items : List (Tree L)) : inOrderItems items = items.map inOrder := by
  induction items with
  | nil => rfl
  | cons item rest ih => rw [inOrderItems, ih, List.map_cons]

/-- The fields of a table are put in order by themselves, and then sorted by their names. -/
theorem inOrderFields_eq_sortedByKey (fields : List (Key L × Tree L)) :
    inOrderFields fields = sortedByKey (fields.map inOrderField) := by
  -- Both insert the first field into the rest in order.
  induction fields with
  | nil => rfl
  | cons field rest ih =>
    rw [inOrderFields, ih]
    rfl

mutual

/--
Whether two values are the same up to labels and to the order of keys in tables.

Dates and times have no value of their own here, and neither have numbers without one.
-/
def sameValue : Tree L → Tree M → Bool
  | .null _, .null _ => true
  | .boolean _ value, .boolean _ other => value = other
  | .integer _ value, .integer _ other => value = other
  | .float _ value, .float _ other => value = other
  | .valueless _, .valueless _ => true
  | .text _ value, .text _ other => value = other
  | .moment _, .moment _ => true
  | .sequence _ items, .sequence _ others => sameItems items others
  | .table _ fields, .table _ others => sameFields fields others
  | _, _ => false

/-- Whether values in two rows are the same, one by one. -/
def sameItems : List (Tree L) → List (Tree M) → Bool
  | [], [] => true
  | item :: rest, other :: others => item.sameValue other && sameItems rest others
  | _, _ => false

/-- Whether each field of a table is in another one, by its key, and no field is left over there. -/
def sameFields : List (Key L × Tree L) → List (Key M × Tree M) → Bool
  | [], others => others.isEmpty
  | (key, value) :: rest, others =>
    match others.find? (·.1.name = key.name) with
    | some other =>
      value.sameValue other.2 && sameFields rest (others.eraseP (·.1.name = key.name))
    | none => false

end

/-- A field that was found by its key is sorted in beside the others. -/
theorem inOrderFields_of_find? {name : String} {fields : List (Key L × Tree L)}
    {field : Key L × Tree L} (found : fields.find? (·.1.name = name) = some field) :
    inOrderFields fields = insertByKey (field.1, field.2.inOrder)
      (inOrderFields (fields.eraseP (·.1.name = name))) := by
  -- The field that is found is the first of its name, and taking it out leaves the others alone.
  obtain ⟨named, front, behind, rfl, before⟩ := List.find?_eq_some_iff_append.mp found
  have differ : ∀ other ∈ front, other.1.name ≠ name := by simpa using before
  simp only [decide_eq_true_eq] at named
  subst named
  rw [List.eraseP_append_right _ (by simpa using differ), List.eraseP_cons_of_pos (by simp),
    inOrderFields_eq_sortedByKey, inOrderFields_eq_sortedByKey, List.map_append, List.map_append,
    List.map_cons]
  exact Schema.sortedByKey_append_cons _ (List.forall_mem_map.mpr differ)

/-- A field is found by its key in any order. -/
theorem find?_inOrderFields (name : String) (fields : List (Key L × Tree L)) :
    (inOrderFields fields).find? (·.1.name = name) =
      (fields.find? (·.1.name = name)).map inOrderField := by
  rw [inOrderFields_eq_sortedByKey, Schema.find?_sortedByKey, List.find?_map]
  rfl

/-- A field is found by its key under any labels. -/
theorem find?_mapFields (f : L → M) (name : String) (fields : List (Key L × Tree L)) :
    (mapFields f fields).find? (·.1.name = name) =
      (fields.find? (·.1.name = name)).map (mapField f) := by
  rw [mapFields_eq_map, List.find?_map]
  rfl

/-- Labels can be left out before or after a field is sorted in. -/
theorem mapFields_insertByKey (f : L → M) (field : Key L × Tree L)
    (fields : List (Key L × Tree L)) :
    mapFields f (insertByKey field fields) =
      insertByKey (mapField f field) (mapFields f fields) := by
  -- Relabelling keeps every name, and the place of a field depends on names alone.
  induction fields with
  | nil => rfl
  | cons other rest ih =>
    simp only [insertByKey, mapFields, mapField]
    split
    · rfl
    · rw [mapFields, ih]
      rfl

mutual

/-- Values that are the same have one form in order, once labels are left out. -/
theorem erase_inOrder_of_sameValue (value : Tree L) (other : Tree M)
    (same : value.sameValue other = true) : value.inOrder.erase = other.inOrder.erase := by
  -- Values of two sorts are never the same, so only equal sorts are left.
  cases value <;> cases other <;>
    simp only [sameValue, Bool.false_eq_true, decide_eq_true_eq] at same
  case sequence.sequence label items label' others =>
    exact congrArg (Tree.sequence ()) (erase_inOrderItems_of_sameItems items others same)
  case table.table label fields label' others =>
    exact congrArg (Tree.table ()) (erase_inOrderFields_of_sameFields fields others same)
  all_goals
    subst_vars
    rfl

/-- Lists with the same items have the same items in order. -/
theorem erase_inOrderItems_of_sameItems (items : List (Tree L)) (others : List (Tree M))
    (same : sameItems items others = true) :
    mapItems (fun _ => ()) (inOrderItems items) = mapItems (fun _ => ()) (inOrderItems others) := by
  -- Items are compared one by one, so the lists end together.
  cases items with
  | nil =>
    cases others with
    | nil => rfl
    | cons other others => simp [sameItems] at same
  | cons item rest =>
    cases others with
    | nil => simp [sameItems] at same
    | cons other others =>
      simp only [sameItems, Bool.and_eq_true] at same
      have here := erase_inOrder_of_sameValue item other same.1
      simp only [erase] at here
      simp only [inOrderItems, mapItems, here, erase_inOrderItems_of_sameItems rest others same.2]

/-- Tables with the same fields have the same fields in order. -/
theorem erase_inOrderFields_of_sameFields (fields : List (Key L × Tree L))
    (others : List (Key M × Tree M)) (same : sameFields fields others = true) :
    mapFields (fun _ => ()) (inOrderFields fields) =
      mapFields (fun _ => ()) (inOrderFields others) := by
  cases fields with
  | nil =>
    simp only [sameFields, List.isEmpty_iff] at same
    subst same
    rfl
  | cons field rest =>
    obtain ⟨key, value⟩ := field
    simp only [sameFields] at same
    split at same
    -- The other table has a field of this name, which goes to the same place in its order.
    next other found =>
      simp only [Bool.and_eq_true] at same
      have here := erase_inOrder_of_sameValue value other.2 same.1
      have named : other.1.name = key.name := by simpa using List.find?_some found
      simp only [erase] at here
      rw [inOrderFields_of_find? found, inOrderFields, mapFields_insertByKey, mapFields_insertByKey,
        erase_inOrderFields_of_sameFields rest _ same.2]
      simp only [mapField, here, named]
    next => cases same

end

mutual

/-- Values with one form in order are the same. -/
theorem sameValue_of_erase_inOrder (value : Tree L) (other : Tree M)
    (shared : value.inOrder.erase = other.inOrder.erase) : value.sameValue other = true := by
  -- Values of different shapes differ without labels too; rows and tables go on with their parts.
  cases value <;> cases other <;>
    simp only [inOrder, erase, map, reduceCtorEq, boolean.injEq, integer.injEq, float.injEq,
      text.injEq, sequence.injEq, table.injEq, true_and] at shared
  case sequence.sequence label items label' others =>
    exact sameItems_of_erase_inOrderItems items others shared
  case table.table label fields label' others =>
    exact sameFields_of_erase_inOrderFields fields others shared
  all_goals simp [sameValue, shared]

/-- Lists whose items in order are the same have the same items. -/
theorem sameItems_of_erase_inOrderItems (items : List (Tree L)) (others : List (Tree M))
    (shared : mapItems (fun _ => ()) (inOrderItems items) =
      mapItems (fun _ => ()) (inOrderItems others)) : sameItems items others = true := by
  -- The order of keys changes no item for another, so the lists end together.
  cases items with
  | nil =>
    cases others with
    | nil => rfl
    | cons other others => cases shared
  | cons item rest =>
    cases others with
    | nil => cases shared
    | cons other others =>
      simp only [inOrderItems, mapItems, List.cons.injEq] at shared
      rw [sameItems, sameValue_of_erase_inOrder item other shared.1,
        sameItems_of_erase_inOrderItems rest others shared.2]
      rfl

/-- Tables whose fields in order are the same have the same fields. -/
theorem sameFields_of_erase_inOrderFields (fields : List (Key L × Tree L))
    (others : List (Key M × Tree M))
    (shared : mapFields (fun _ => ()) (inOrderFields fields) =
      mapFields (fun _ => ()) (inOrderFields others)) : sameFields fields others = true := by
  cases fields with
  | nil =>
    cases others with
    | nil => rfl
    | cons other others =>
      -- A field of the other table would be found there, and nothing is found here.
      have found := congrArg (List.find? (·.1.name = other.1.name)) shared
      rw [find?_mapFields _ _ (inOrderFields (other :: others)), find?_inOrderFields] at found
      simp [inOrderFields, mapFields] at found
  | cons field rest =>
    obtain ⟨key, value⟩ := field
    -- What is found by the key is the same on both sides.
    have found := congrArg (List.find? (·.1.name = key.name)) shared
    rw [inOrderFields, mapFields_insertByKey, Schema.find?_insertByKey,
      List.find?_cons_of_pos (by simp [mapField]), find?_mapFields, find?_inOrderFields] at found
    cases there : others.find? (·.1.name = key.name) with
    | none => simp [there] at found
    | some other =>
      have named : other.1.name = key.name := by simpa using List.find?_some there
      simp only [there, Option.map_some, Option.some.injEq, mapField, inOrderField,
        Prod.mk.injEq] at found
      -- Without that field, the rest is the same on both sides, too.
      rw [inOrderFields_of_find? there, inOrderFields, mapFields_insertByKey,
        mapFields_insertByKey] at shared
      have others := congrArg (List.eraseP (·.1.name = key.name)) shared
      have here : (mapField (fun _ => ()) (key, value.inOrder)).1.name = key.name := rfl
      have behind : (mapField (fun _ => ()) (other.1, other.2.inOrder)).1.name = key.name := named
      rw [Schema.eraseP_insertByKey here, Schema.eraseP_insertByKey behind] at others
      simp only [sameFields, there, sameValue_of_erase_inOrder value other.2 found.2,
        sameFields_of_erase_inOrderFields rest _ others, Bool.and_self]

end

/-- Two values are the same exactly if they have one form in order, once labels are left out. -/
theorem sameValue_iff (value : Tree L) (other : Tree M) :
    value.sameValue other = true ↔ value.inOrder.erase = other.inOrder.erase :=
  ⟨erase_inOrder_of_sameValue value other, sameValue_of_erase_inOrder value other⟩

end Tree

end DeclGen
