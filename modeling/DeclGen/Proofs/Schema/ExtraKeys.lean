import DeclGen.Proofs.Schema.ManifestFaults
import DeclGen.Proofs.Schema.Parts
import Mathlib.Logic.Relation

/-!
Keys that no field of a record has: they are told about, but in members they are passed over.

A key is visited somewhere among the others; what was visited before it has no fault if the record
has none without it.
-/

namespace DeclGen.Schema

variable {L R : Type}

/-- A key that no field has leads to none. -/
theorem Record.find?_unknown {shape : Record L R} {name : String}
    (unknown : name ∉ shape.fields.map (·.name)) : shape.fields.find? (·.name = name) = none := by
  simpa [List.find?_eq_none] using unknown

/-- A key that leads to no field is a fault, with any value. -/
theorem Record.putPair_unknown {shape : Record L R} (strict : shape.strict = true)
    {pair : Key L × Tree L} (unknown : pair.1.name ∉ shape.fields.map (·.name)) (record : R) :
    shape.putPair record pair =
      .error ⟨.unknownField pair.1.name (shape.fields.map (·.name)), pair.1.label⟩ := by
  rw [Record.putPair, Record.find?_unknown unknown]
  exact if_pos strict

/-- A key that leads to no field is passed over with its value. -/
theorem Record.putPair_skipped {shape : Record L R} (lax : shape.strict = false)
    {pair : Key L × Tree L} (unknown : pair.1.name ∉ shape.fields.map (·.name))
    (valued : pair.2.skippable = true) (record : R) : shape.putPair record pair = .ok record := by
  rw [Record.putPair, Record.find?_unknown unknown]
  simp only [lax, valued, Bool.false_eq_true, if_false, if_true]

/-- A table that is accepted is refused with one more key, if that leads to no field. -/
theorem Record.read_unknown (shape : Record L R) (strict : shape.strict = true) (label : L)
    {front behind : List (Key L × Tree L)} {start record : R}
    (accepted : shape.read start (.table label (front ++ behind)) = .ok record) {key : Key L}
    (unknown : key.name ∉ shape.fields.map (·.name)) (value : Tree L) :
    shape.read start (.table label (front ++ (key, value) :: behind)) =
      .error ⟨.unknownField key.name (shape.fields.map (·.name)), key.label⟩ := by
  obtain ⟨lower, upper, parts, sorted⟩ := exists_sortedByKey_append_cons key.name front behind
  rw [Record.read, parts, List.foldlM_append] at accepted
  rw [Record.read, sorted (key, value) rfl, List.foldlM_append]
  -- The keys in front of it are accepted in both tables.
  cases before : lower.foldlM shape.putPair start with
  | error fault => simp [before, Bind.bind, Except.bind] at accepted
  | ok middle =>
    change ((key, value) :: upper).foldlM shape.putPair middle = _
    rw [List.foldlM_cons, Record.putPair_unknown strict unknown]
    rfl

/-- A key that leads to no field makes no difference where such keys are passed over. -/
theorem Record.read_skipped (shape : Record L R) (lax : shape.strict = false) (start : R)
    (label : L) (front behind : List (Key L × Tree L)) {key : Key L} {value : Tree L}
    (unknown : key.name ∉ shape.fields.map (·.name)) (valued : value.skippable = true) :
    shape.read start (.table label (front ++ (key, value) :: behind)) =
      shape.read start (.table label (front ++ behind)) := by
  -- The key has one place among the sorted ones, and the fields around it stay in order.
  obtain ⟨lower, upper, parts, sorted⟩ := exists_sortedByKey_append_cons key.name front behind
  rw [Record.read, Record.read, parts, sorted (key, value) rfl, List.foldlM_append,
    List.foldlM_append]
  congr 1
  funext record
  rw [List.foldlM_cons, Record.putPair_skipped lax unknown valued]
  rfl

/-- Outside members, a table that is accepted is refused with a key more that is no field. -/
theorem Part.read_unknown (locate : L → Span) {part : Part} (outside : part ≠ .member) (label : L)
    {front behind : List (Key L × Tree L)} {content : part.Content}
    (accepted : part.read locate (.table label (front ++ behind)) = .ok content) {key : Key L}
    (unknown : key.name ∉ part.fields) (value : Tree L) :
    part.read locate (.table label (front ++ (key, value) :: behind)) =
      .error ⟨.unknownField key.name part.fields, key.label⟩ := by
  -- All parts but a member are strict, so the general lemma holds for each.
  cases part with
  | manifest => exact (manifestRecord locate).read_unknown rfl label accepted unknown value
  | settings =>
    rw [Part.read, readSettings_ignored] at accepted ⊢
    exact settingsRecord.read_unknown rfl label accepted unknown value
  | entry => exact (entryRecord locate).read_unknown rfl label accepted unknown value
  | member => exact absurd rfl outside

/-- A manifest that is accepted is refused with a key more outside its members. -/
theorem Place.readManifest_unknown {part : Part} (place : Place L part) (outside : part ≠ .member)
    {locate : L → Span} {label : L} {front behind : List (Key L × Tree L)} {manifest : Manifest}
    (accepted : readManifest locate (place.fill (.table label (front ++ behind))) = .ok manifest)
    {key : Key L} (unknown : key.name ∉ part.fields) (value : Tree L) :
    readManifest locate (place.fill (.table label (front ++ (key, value) :: behind))) =
      .error ⟨.unknownField key.name part.fields, key.label⟩ := by
  have through := place.readsThrough locate
  obtain ⟨content, taken⟩ := through.exists_of_ok accepted
  exact through.error_of_ok accepted (part.read_unknown locate outside label taken unknown value)

/-- A member is the same with a key more that is no field. -/
theorem readMember_skipped (label : L) (front behind : List (Key L × Tree L)) {key : Key L}
    {value : Tree L} (unknown : key.name ∉ Part.member.fields) (valued : value.skippable = true) :
    readMember .ignored (.table label (front ++ (key, value) :: behind)) =
      readMember .ignored (.table label (front ++ behind)) := by
  rw [readMember_ignored, readMember_ignored,
    memberRecord.read_skipped rfl {} label front behind unknown valued]
  rfl

/-- One manifest has all that another one has, and a key more in a member, which is no field. -/
inductive AddsMemberKey : Tree L → Tree L → Prop where
  /-- The key stands anywhere in the member, and each number in its value has a value. -/
  | add (place : Place L .member) (label : L) (front behind : List (Key L × Tree L)) (key : Key L)
      (value : Tree L) (unknown : key.name ∉ Part.member.fields) (valued : value.skippable = true) :
      AddsMemberKey (place.fill (.table label (front ++ behind)))
        (place.fill (.table label (front ++ (key, value) :: behind)))

/-- A key in a member that is no field makes no difference to the manifest. -/
theorem AddsMemberKey.readManifest_eq {one other : Tree L} (adds : AddsMemberKey one other)
    (locate : L → Span) : readManifest locate other = readManifest locate one := by
  cases adds with
  | add place label front behind key value unknown valued =>
    exact (place.readsThrough locate).congr (readMember_skipped label front behind unknown valued)

/-- Any number of keys in members that are no fields make no difference to the manifest. -/
theorem readManifest_of_addsMemberKeys {one other : Tree L}
    (adds : Relation.ReflTransGen AddsMemberKey one other) (locate : L → Span) :
    readManifest locate other = readManifest locate one := by
  induction adds with
  | refl => rfl
  | tail _ last ih => rw [last.readManifest_eq, ih]

end DeclGen.Schema
