import DeclGen.Proofs.Schema.Keys
import DeclGen.Proofs.Schema.Refusal
import DeclGen.Proofs.Tree

/-! A record is refused with the first fault that its layout lists, as far as its fields go. -/

namespace DeclGen

namespace Tree

variable {L : Type}

/-- What can be skipped in a row can be skipped item by item. -/
theorem skippable_of_mem_items {label : L} {items : List (Tree L)}
    (whole : (Tree.sequence label items).skippable = true) {item : Tree L} (member : item ∈ items) :
    item.skippable = true := by
  simp only [skippable, all, Bool.true_and] at whole
  exact allItems_iff.mp whole item member

/-- What can be skipped in a table can be skipped pair by pair. -/
theorem skippable_of_mem_fields {label : L} {fields : List (Key L × Tree L)}
    (whole : (Tree.table label fields).skippable = true) {field : Key L × Tree L}
    (member : field ∈ fields) : field.2.skippable = true := by
  simp only [skippable, all, Bool.true_and] at whole
  exact allFields_iff.mp whole field member

end Tree

namespace Schema

variable {L R : Type}

/-- A reader refuses every value whose numbers have values with the first fault of a list. -/
def Refuses {α : Type} (read : Tree L → Except (Fault L) α) (faults : Tree L → List (Fault L)) :
    Prop :=
  ∀ value, value.skippable = true → refusal (read value) = (faults value).head?

/-- A rule lists the faults with which a field refuses values. -/
structure FieldRule.Describes (rule : FieldRule L) (field : Field L R) : Prop where
  /-- Both have the same key. -/
  name : rule.name = field.name
  /-- The field refuses a value with its first fault, whatever the record so far. -/
  faults : ∀ label record, Refuses (field.put label · record) (rule.faults label)

/-- A layout lists the fields of a record in their order. -/
structure Layout.Describes (layout : Layout L) (shape : Record L R) : Prop where
  /-- Both are told about alike. -/
  expected : layout.expected = shape.expected
  /-- Each field has its rule. -/
  fields : List.Forall₂ FieldRule.Describes layout.fields shape.fields
  /-- Both take the same keys. -/
  strict : layout.strict = shape.strict

namespace Layout

/-- The layout that asks for no field. -/
def withoutRequired (layout : Layout L) : Layout L := { layout with required := [] }

/-- What is wrong with a value because of required fields that are not there. -/
def lackFaults (layout : Layout L) : Tree L → List (Fault L)
  | .table label pairs => layout.missingFaults label pairs
  | .moment label => layout.missingFaults label [(⟨momentKey, label⟩, .text label "")]
  | .sequence label items =>
    if items.length < layout.required.length then
      [⟨.tooShort items.length layout.expected layout.fields.length, label⟩]
    else []
  | _ => []

/-- Missing fields come last of all faults. -/
theorem faults_eq_append (layout : Layout L) (value : Tree L) :
    layout.faults value = layout.withoutRequired.faults value ++ layout.lackFaults value := by
  cases value <;>
    simp [faults, lackFaults, tableFaults, rowFaults, missingFaults, withoutRequired]
  all_goals rfl

variable {layout : Layout L} {shape : Record L R}

/-- A pair of a table is refused with its first fault. -/
theorem Describes.refusal_putPair (describes : layout.Describes shape) (record : R)
    {pair : Key L × Tree L} (valued : pair.2.skippable = true) :
    refusal (shape.putPair record pair) = (layout.pairFaults pair).head? := by
  unfold Record.putPair pairFaults
  -- Both find the key, and then agree, or neither does.
  have named := names_of_forall₂ describes.fields fun _ _ agree => agree.name
  rcases find?_of_forall₂ describes.fields (fun _ _ agree => agree.name) pair.1.name with
    ⟨noRule, noField⟩ | ⟨rule, field, ruled, found, agree⟩
  · simp only [noRule, noField, describes.strict, named]
    by_cases strict : shape.strict = true <;> simp [strict, valued]
  · simp only [ruled, found]
    exact agree.faults _ _ _ valued

/-- The items of a row are refused with the first fault of all. -/
theorem refusal_putItem {rules : List (FieldRule L)} {fields : List (Field L R)}
    (paired : List.Forall₂ FieldRule.Describes rules fields) (label : L) {items : List (Tree L)}
    (valued : ∀ item ∈ items, item.skippable = true) (start : R) :
    refusal ((fields.zip items).foldlM (Record.putItem label) start) =
      ((rules.zip items).flatMap fun (rule, item) => rule.faults label item).head? := by
  -- Fields, rules and items are taken in step.
  induction paired generalizing items start with
  | nil => rfl
  | cons head _ ih =>
    cases items with
    | nil => rfl
    | cons item items =>
      have here := head.faults label start item (valued item (by simp))
      have rest : ∀ other ∈ items, other.skippable = true :=
        fun other member => valued other (by simp [member])
      have later := ih rest
      simp only [List.zip_cons_cons, List.foldlM_cons, List.flatMap_cons, List.head?_append, ← here]
      simp only [Record.putItem]
      cases taken : Field.put _ label item start with
      | error fault => simp [Bind.bind, Except.bind]
      | ok next => simp [Bind.bind, Except.bind, ← later next]

/-- A record is refused with the first fault of its layout, required fields apart. -/
theorem Describes.refusal_read (describes : layout.Describes shape) (start : R) :
    Refuses (shape.read start) layout.withoutRequired.faults := by
  -- What is neither a table nor a row has one fault, that of its type.
  have wrongType : ∀ value : Tree L,
      refusal (mismatch shape.expected value : Except (Fault L) R) =
        [typeFault layout.expected value].head? := by
    intro value
    rw [describes.expected]
    rfl
  intro value valued
  cases value with
  | table label pairs =>
    -- The record so far has no part in what is wrong with a pair.
    have each : ∀ pair ∈ sortedByKey pairs, ∀ record,
        refusal (shape.putPair record pair) = (layout.pairFaults pair).head? := by
      intro pair member record
      rw [mem_sortedByKey] at member
      exact describes.refusal_putPair record (Tree.skippable_of_mem_fields valued member)
    rw [Record.read, refusal_foldlM each, sortedByKey_eq_insertionSort]
    simp [faults, tableFaults, missingFaults, withoutRequired]
    rfl
  | moment label =>
    rw [Record.read, describes.refusal_putPair _ rfl]
    simp [faults, tableFaults, missingFaults, withoutRequired]
    rfl
  | sequence label items =>
    rw [Record.read, refusal_putItem describes.fields label
      (fun item member => Tree.skippable_of_mem_items valued member)]
    simp [faults, rowFaults, withoutRequired]
  | null label => exact wrongType _
  | boolean label value => exact wrongType _
  | integer label value => exact wrongType _
  | float label value => exact wrongType _
  | valueless label => exact wrongType _
  | text label value => exact wrongType _

end Layout

end Schema

end DeclGen
