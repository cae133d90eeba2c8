import DeclGen.Proofs.Schema.Faults
import DeclGen.Schema.Record
import Mathlib.Data.List.Forall2

/-! Keys of a table: the order in which they are visited, and the fields that they lead to. -/

namespace DeclGen.Schema

variable {L M : Type}

/-- The order of bytes is the order of names. -/
theorem comesFirst_iff (one other : Key L × Tree L) :
    comesFirst one other ↔ one.1.name ≤ other.1.name :=
  Text.bytes_le_iff _ _

/-- A pair goes in front of the first one whose key has no smaller bytes. -/
theorem insertByKey_eq_orderedInsert (pair : Key L × Tree L) (pairs : List (Key L × Tree L)) :
    insertByKey pair pairs = pairs.orderedInsert comesFirst pair := by
  induction pairs with
  | nil => rfl
  | cons other rest ih => simp only [insertByKey, List.orderedInsert_cons, comesFirst_iff, ih]

/-- The pairs of a table are sorted by the bytes of their keys. -/
theorem sortedByKey_eq_insertionSort (pairs : List (Key L × Tree L)) :
    sortedByKey pairs = pairs.insertionSort comesFirst := by
  induction pairs with
  | nil => rfl
  | cons pair rest ih =>
    rw [List.insertionSort_cons, ← ih, ← insertByKey_eq_orderedInsert]
    rfl

/-- Sorting a table keeps its pairs, and only their order changes. -/
theorem perm_sortedByKey (pairs : List (Key L × Tree L)) : (sortedByKey pairs).Perm pairs := by
  rw [sortedByKey_eq_insertionSort]
  exact List.perm_insertionSort _ _

/-- Sorting a table keeps its pairs. -/
theorem mem_sortedByKey (pairs : List (Key L × Tree L)) (pair : Key L × Tree L) :
    pair ∈ sortedByKey pairs ↔ pair ∈ pairs :=
  (perm_sortedByKey pairs).mem_iff

/-- A table whose keys come in order is visited as it stands. -/
theorem sortedByKey_of_pairwise {pairs : List (Key L × Tree L)}
    (ordered : pairs.Pairwise (·.1.name ≤ ·.1.name)) : sortedByKey pairs = pairs := by
  rw [sortedByKey_eq_insertionSort]
  exact (ordered.imp (comesFirst_iff _ _).mpr).insertionSort_eq

instance : Std.Total (comesFirst (L := L)) where
  total one other := by
    simp only [comesFirst_iff]
    exact String.le_total _ _

instance : IsTrans (Key L × Tree L) comesFirst where
  trans one two three := by
    simp only [comesFirst_iff]
    exact String.le_trans

/-- Sorting a table once more changes nothing. -/
theorem sortedByKey_sortedByKey (pairs : List (Key L × Tree L)) :
    sortedByKey (sortedByKey pairs) = sortedByKey pairs := by
  have sorted := List.pairwise_insertionSort comesFirst pairs
  rw [← sortedByKey_eq_insertionSort] at sorted
  exact sortedByKey_of_pairwise (sorted.imp (comesFirst_iff _ _).mp)

/-- Sorting looks at the names of keys only. -/
theorem sortedByKey_map_of_names (view : Key L × Tree L → Key M × Tree M)
    (names : ∀ pair, (view pair).1.name = pair.1.name) (pairs : List (Key L × Tree L)) :
    sortedByKey (pairs.map view) = (sortedByKey pairs).map view := by
  rw [sortedByKey_eq_insertionSort, sortedByKey_eq_insertionSort]
  refine (List.map_insertionSort comesFirst comesFirst view pairs fun one _ other _ => ?_).symm
  rw [comesFirst_iff, comesFirst_iff, names, names]

/-- Of two pairs, the one that comes first can be inserted first or last. -/
theorem insertByKey_of_lt {one two : Key L × Tree L} (first : one.1.name ≤ two.1.name)
    (behind : ¬ two.1.name ≤ one.1.name) (pairs : List (Key L × Tree L)) :
    insertByKey one (insertByKey two pairs) = insertByKey two (insertByKey one pairs) := by
  induction pairs with
  | nil => simp only [insertByKey, if_pos first, if_neg behind]
  | cons pair rest ih =>
    -- The pair in hand comes behind both, between them, or in front of both.
    by_cases last : two.1.name ≤ pair.1.name
    · have before := String.le_trans first last
      simp only [insertByKey, if_pos last, if_pos before, if_pos first, if_neg behind]
    · by_cases before : one.1.name ≤ pair.1.name
      · simp only [insertByKey, if_neg last, if_pos before, if_neg behind]
      · simp only [insertByKey, if_neg last, if_neg before, ih]

/-- Two pairs with different keys can be inserted in either order. -/
theorem insertByKey_comm {one two : Key L × Tree L} (differ : one.1.name ≠ two.1.name)
    (pairs : List (Key L × Tree L)) :
    insertByKey one (insertByKey two pairs) = insertByKey two (insertByKey one pairs) := by
  rcases String.le_total one.1.name two.1.name with first | first
  · exact insertByKey_of_lt first (fun last => differ (String.le_antisymm first last)) pairs
  · exact (insertByKey_of_lt first (fun last => differ (String.le_antisymm last first)) pairs).symm

/-- A pair can be sorted in as the first one, if no pair in front of it has the same key. -/
theorem sortedByKey_append_cons {front : List (Key L × Tree L)} {pair : Key L × Tree L}
    (behind : List (Key L × Tree L)) (differ : ∀ other ∈ front, other.1.name ≠ pair.1.name) :
    sortedByKey (front ++ pair :: behind) = insertByKey pair (sortedByKey (front ++ behind)) := by
  induction front with
  | nil => rfl
  | cons other front ih =>
    obtain ⟨here, later⟩ := List.forall_mem_cons.mp differ
    change insertByKey other (sortedByKey (front ++ pair :: behind)) = _
    -- Insertions of different names commute, so the later pair can come last.
    rw [ih later, insertByKey_comm here]
    rfl

/-- Pairs of one name are inserted into a table at one place, behind all that come earlier. -/
theorem exists_insertByKey (name : String) (pairs : List (Key L × Tree L)) :
    ∃ lower upper, pairs = lower ++ upper ∧ (∀ other ∈ upper.head?, name ≤ other.1.name) ∧
      ∀ pair : Key L × Tree L, pair.1.name = name →
        insertByKey pair pairs = lower ++ pair :: upper := by
  induction pairs with
  | nil => exact ⟨[], [], rfl, by simp, fun _ _ => rfl⟩
  | cons other rest ih =>
    -- The place is here, in front of the first name that is not smaller, or it is further on.
    by_cases first : name ≤ other.1.name
    · refine ⟨[], other :: rest, rfl, by simpa using first, ?_⟩
      rintro pair rfl
      exact if_pos first
    · obtain ⟨lower, upper, rfl, above, placed⟩ := ih
      refine ⟨other :: lower, upper, rfl, above, ?_⟩
      rintro pair rfl
      rw [insertByKey, if_neg first, placed pair rfl]
      rfl

/-- A pair is inserted into the first of two lists, or it passes that by. -/
theorem insertByKey_append (pair : Key L × Tree L) (lower : List (Key L × Tree L)) :
    (∃ wider, ∀ upper, insertByKey pair (lower ++ upper) = wider ++ upper) ∨
      ∀ upper, insertByKey pair (lower ++ upper) = lower ++ insertByKey pair upper := by
  induction lower with
  | nil => exact .inr fun _ => rfl
  | cons other rest ih =>
    -- The pair is put among the lower ones, or it passes all of them.
    by_cases first : pair.1.name ≤ other.1.name
    · exact .inl ⟨pair :: other :: rest, fun upper => if_pos first⟩
    · rcases ih with ⟨wider, within⟩ | passed
      · refine .inl ⟨other :: wider, fun upper => ?_⟩
        rw [List.cons_append, insertByKey, if_neg first, within]
        rfl
      · refine .inr fun upper => ?_
        rw [List.cons_append, insertByKey, if_neg first, passed]
        rfl

/-- Pairs of one name are sorted into a table at one place, which the other pairs decide. -/
theorem exists_sortedByKey_append_cons (name : String) (front behind : List (Key L × Tree L)) :
    ∃ lower upper, sortedByKey (front ++ behind) = lower ++ upper ∧
      ∀ pair : Key L × Tree L, pair.1.name = name →
        sortedByKey (front ++ pair :: behind) = lower ++ pair :: upper := by
  -- What comes first behind the place does not come earlier than the name.
  suffices placed : ∃ lower upper, sortedByKey (front ++ behind) = lower ++ upper ∧
      (∀ other ∈ upper.head?, name ≤ other.1.name) ∧
      ∀ pair : Key L × Tree L, pair.1.name = name →
        sortedByKey (front ++ pair :: behind) = lower ++ pair :: upper by
    obtain ⟨lower, upper, parts, -, sorted⟩ := placed
    exact ⟨lower, upper, parts, sorted⟩
  induction front with
  | nil => exact exists_insertByKey name (sortedByKey behind)
  | cons other front ih =>
    obtain ⟨lower, upper, parts, above, sorted⟩ := ih
    have step : ∀ pairs : List (Key L × Tree L),
        sortedByKey (other :: front ++ pairs) = insertByKey other (sortedByKey (front ++ pairs)) :=
      fun _ => rfl
    rcases insertByKey_append other lower with ⟨wider, within⟩ | passed
    · refine ⟨wider, upper, by rw [step, parts, within], above, fun pair named => ?_⟩
      rw [step, sorted pair named, within]
    by_cases first : other.1.name ≤ name
    · -- It stands right in front of the place, and so in front of what follows.
      have front : insertByKey other upper = other :: upper := by
        cases upper with
        | nil => rfl
        | cons next rest => exact if_pos (String.le_trans first (above next rfl))
      refine ⟨lower ++ [other], upper, ?_, above, ?_⟩
      · rw [step, parts, passed, front, List.append_assoc]
        rfl
      · rintro pair rfl
        rw [step, sorted pair rfl, passed, insertByKey, if_pos first, List.append_assoc]
        rfl
    · refine ⟨lower, insertByKey other upper, by rw [step, parts, passed], ?_, ?_⟩
      · have behind : name ≤ other.1.name := (String.le_total _ _).resolve_left first
        cases upper with
        | nil => simpa [insertByKey] using behind
        | cons next rest =>
          rw [insertByKey]
          split
          · simpa using behind
          · exact above
      · rintro pair rfl
        rw [step, sorted pair rfl, passed, insertByKey, if_neg first]

/-- A pair is found in front of all that it is inserted into. -/
theorem find?_insertByKey (name : String) (pair : Key L × Tree L) (pairs : List (Key L × Tree L)) :
    (insertByKey pair pairs).find? (·.1.name = name) = (pair :: pairs).find? (·.1.name = name) := by
  induction pairs with
  | nil => rfl
  | cons other rest ih =>
    rw [insertByKey]
    split
    · rfl
    next behind =>
      -- What the pair is moved behind has a key of its own.
      have differ : pair.1.name = name → ¬ other.1.name = name := by
        rintro rfl same
        exact behind (same ▸ String.le_refl _)
      rw [List.find?_cons, ih, List.find?_cons, List.find?_cons, List.find?_cons]
      by_cases here : pair.1.name = name
      · simp [here, differ here]
      · simp [here]

/-- A pair that is found by its key is found in the sorted table. -/
theorem find?_sortedByKey (name : String) (pairs : List (Key L × Tree L)) :
    (sortedByKey pairs).find? (·.1.name = name) = pairs.find? (·.1.name = name) := by
  -- Each insertion keeps the first field of every name, and so does the whole order.
  induction pairs with
  | nil => rfl
  | cons pair rest ih =>
    change (insertByKey pair (sortedByKey rest)).find? _ = _
    rw [find?_insertByKey, List.find?_cons, ih, List.find?_cons]

/-- A pair that was inserted is the first one of its key, so it can be taken out again. -/
theorem eraseP_insertByKey {name : String} {pair : Key L × Tree L} (named : pair.1.name = name)
    (pairs : List (Key L × Tree L)) :
    (insertByKey pair pairs).eraseP (·.1.name = name) = pairs := by
  subst named
  induction pairs with
  | nil => simp [insertByKey]
  | cons other rest ih =>
    rw [insertByKey]
    split
    · simp
    next behind =>
      -- The pair goes behind this one, so this one has a smaller name and is not the one erased.
      have differ : ¬ other.1.name = pair.1.name := fun same => behind (same ▸ String.le_refl _)
      rw [List.eraseP_cons_of_neg (by simpa using differ), ih]

section Paired

variable {A B : Type} {Rel : A → B → Prop} {name : A → String} {other : B → String}
  {left : List A} {right : List B}

/-- Fields that are paired by their names have the same names. -/
theorem names_of_forall₂ (paired : List.Forall₂ Rel left right)
    (agree : ∀ a b, Rel a b → name a = other b) : left.map name = right.map other := by
  induction paired with
  | nil => rfl
  | cons head _ ih => rw [List.map_cons, List.map_cons, agree _ _ head, ih]

/-- Where fields are paired by their names, a key leads to a pair of them, or to none. -/
theorem find?_of_forall₂ (paired : List.Forall₂ Rel left right)
    (agree : ∀ a b, Rel a b → name a = other b) (key : String) :
    (left.find? (name · = key) = none ∧ right.find? (other · = key) = none) ∨
      ∃ a b, left.find? (name · = key) = some a ∧ right.find? (other · = key) = some b ∧
        Rel a b := by
  induction paired with
  | nil => exact .inl ⟨rfl, rfl⟩
  | @cons a b left right head _ ih =>
    -- The pair in hand has one name, which is the key or is not.
    have same := agree a b head
    by_cases found : name a = key
    · exact .inr ⟨a, b, by simp [found], by simp [← same, found], head⟩
    · have missed : other b ≠ key := same ▸ found
      simpa [List.find?_cons, found, missed] using ih

end Paired

end DeclGen.Schema
