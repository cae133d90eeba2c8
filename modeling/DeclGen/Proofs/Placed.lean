import DeclGen.Proofs.Tree
import Mathlib.Data.Set.List

/-! Trees whose labels are all of one sort, and where each text is written at its label. -/

namespace DeclGen.Tree

variable {L M : Type}

/--
A tree with the right labels only, on its nodes and on its keys.

A label of a text has to be one where that text is written, too.
-/
inductive Placed (right : L → Prop) (written : L → String → Prop) : Tree L → Prop where
  | null {label : L} (here : right label) : Placed right written (.null label)
  | boolean {label : L} {value : Bool} (here : right label) :
      Placed right written (.boolean label value)
  | integer {label : L} {value : Int} (here : right label) :
      Placed right written (.integer label value)
  | float {label : L} {value : Binary64} (here : right label) :
      Placed right written (.float label value)
  | valueless {label : L} (here : right label) : Placed right written (.valueless label)
  | text {label : L} {value : String} (here : right label) (there : written label value) :
      Placed right written (.text label value)
  | moment {label : L} (here : right label) : Placed right written (.moment label)
  | sequence {label : L} {items : List (Tree L)} (here : right label)
      (inside : ∀ item ∈ items, Placed right written item) :
      Placed right written (.sequence label items)
  | table {label : L} {fields : List (Key L × Tree L)} (here : right label)
      (keys : ∀ field ∈ fields, right field.1.label)
      (inside : ∀ field ∈ fields, Placed right written field.2) :
      Placed right written (.table label fields)

/-- A field with the right label on its key and the right labels in its value. -/
def FieldPlaced (right : L → Prop) (written : L → String → Prop) (field : Key L × Tree L) : Prop :=
  right field.1.label ∧ field.2.Placed right written

variable {right : L → Prop} {written : L → String → Prop}

/-- The labels of a table are those of its fields, besides its own. -/
theorem placed_table_iff {label : L} {fields : List (Key L × Tree L)} :
    (Tree.table label fields).Placed right written ↔
      right label ∧ ∀ field ∈ fields, FieldPlaced right written field := by
  -- A table has one constructor, which asks for its label, its keys and its values.
  constructor
  · rintro ⟨⟩
    rename_i here keys inside
    exact ⟨here, fun field member => ⟨keys field member, inside field member⟩⟩
  · rintro ⟨here, inside⟩
    exact .table here (fun field member => (inside field member).1)
      fun field member => (inside field member).2

/-- The labels of values in a row are those of the items, besides their own. -/
theorem placed_sequence_iff {label : L} {items : List (Tree L)} :
    (Tree.sequence label items).Placed right written ↔
      right label ∧ ∀ item ∈ items, item.Placed right written := by
  -- A row has one constructor, which asks for its label and its items.
  constructor
  · rintro ⟨⟩
    rename_i here inside
    exact ⟨here, inside⟩
  · rintro ⟨here, inside⟩
    exact .sequence here inside

namespace Placed

/-- Changed labels are right where the labels before lead to right ones. -/
theorem map {f : M → L} {value : Tree M}
    (placed : value.Placed (fun label => right (f label)) fun label => written (f label)) :
    (value.map f).Placed right written := by
  -- Each constructor is rebuilt from the same facts about the labels that are mapped.
  induction placed with
  | null here => exact .null here
  | boolean here => exact .boolean here
  | integer here => exact .integer here
  | float here => exact .float here
  | valueless here => exact .valueless here
  | text here there => exact .text here there
  | moment here => exact .moment here
  | sequence here inside ih =>
    rw [Tree.map, mapItems_eq_map]
    exact .sequence here (List.forall_mem_map.mpr ih)
  | table here keys inside ih =>
    rw [Tree.map, mapFields_eq_map]
    exact .table here (List.forall_mem_map.mpr keys) (List.forall_mem_map.mpr ih)

/-- A tree with the right labels only comes from one that can have no others. -/
theorem exists_map {value : Tree L} (placed : value.Placed right written) :
    ∃ inner : Tree {label // right label}, inner.map Subtype.val = value := by
  -- Labels that are right are labels with a proof of it, which the induction collects.
  induction placed with
  | null here => exact ⟨.null ⟨_, here⟩, rfl⟩
  | boolean here => exact ⟨.boolean ⟨_, here⟩ _, rfl⟩
  | integer here => exact ⟨.integer ⟨_, here⟩ _, rfl⟩
  | float here => exact ⟨.float ⟨_, here⟩ _, rfl⟩
  | valueless here => exact ⟨.valueless ⟨_, here⟩, rfl⟩
  | text here there => exact ⟨.text ⟨_, here⟩ _, rfl⟩
  | moment here => exact ⟨.moment ⟨_, here⟩, rfl⟩
  | @sequence label items here inside ih =>
    -- Each item comes from a tree with proofs, and so the list of them comes from such a list.
    have each : items ∈ Set.range (List.map (Tree.map (Subtype.val (p := right)))) := by
      rw [Set.range_list_map]
      exact ih
    obtain ⟨inner, rfl⟩ := each
    exact ⟨.sequence ⟨label, here⟩ inner, by rw [Tree.map, mapItems_eq_map]⟩
  | @table label fields here keys inside ih =>
    have each : fields ∈ Set.range (List.map (mapField (Subtype.val (p := right)))) := by
      rw [Set.range_list_map]
      intro field member
      obtain ⟨inner, same⟩ := ih field member
      exact ⟨(⟨field.1.name, ⟨field.1.label, keys field member⟩⟩, inner), Prod.ext rfl same⟩
    obtain ⟨inner, rfl⟩ := each
    exact ⟨.table ⟨label, here⟩ inner, by rw [Tree.map, mapFields_eq_map]⟩

end Placed

end DeclGen.Tree
