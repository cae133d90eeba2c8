import DeclGen.Manifest.Parse
import DeclGen.Proofs.Kind

/-! Validation accepts exactly the manifests in which no entry contradicts itself. -/

namespace DeclGen

namespace Entry

/-- The kind of an entry is the one that its text is parsed as. -/
theorem knownKind_eq_some_iff (entry : Entry) (kind : Kind) :
    entry.knownKind = some kind ↔ ∃ text, entry.kind = some text ∧ Kind.parse text = .ok kind := by
  unfold knownKind parsedKind
  cases entry.kind with
  | none => simp [Except.toOption]
  | some text => cases parsed : Kind.parse text <;> simp [parsed, Except.map, Except.toOption]

/-- An entry has a kind with one name exactly when that is written out. -/
theorem knownKind_eq_some_iff_of_ne_plain {kind : Kind} (other : kind ≠ .plain) (entry : Entry) :
    entry.knownKind = some kind ↔ entry.kind = some kind.name := by
  simp [knownKind_eq_some_iff, Kind.parse_eq_ok_iff_of_ne_plain other]

/-- An entry is an enum exactly when `enum` is written as its kind. -/
theorem knownKind_eq_enum_iff (entry : Entry) :
    entry.knownKind = some .enum ↔ entry.kind = some "enum" :=
  knownKind_eq_some_iff_of_ne_plain (by decide) entry

/-- Members ask for an enum without a block. -/
theorem contradiction_eq_none_iff (entry : Entry) :
    entry.contradiction = none ↔
      (entry.members ≠ [] → entry.kind = some "enum" ∧ entry.block = none) := by
  rw [← knownKind_eq_enum_iff]
  unfold contradiction
  -- The three conditions are asked for in turn.
  by_cases empty : entry.members = []
  · simp [empty]
  · by_cases isEnum : entry.knownKind = some .enum
    · by_cases noBlock : entry.block = none <;> simp [empty, isEnum, noBlock]
    · simp [empty, isEnum]

end Entry

namespace Manifest

/-- No entry contradicts itself. -/
def Consistent (manifest : Manifest) : Prop :=
  ∀ entry ∈ manifest.entries, entry.contradiction = none

/-- Validation looks for an entry that contradicts itself, whatever the source is called. -/
theorem validate_eq_ok_iff (manifest : Manifest) (sourceName : String) :
    manifest.validate sourceName = .ok () ↔ manifest.Consistent := by
  -- A manifest is consistent if the search for a contradiction ends with nothing.
  have nothing :
      (manifest.entries.findSome? fun entry => entry.contradiction.map (entry, ·)) = none ↔
        manifest.Consistent := by
    simp [List.findSome?_eq_none_iff, Consistent]
  unfold validate
  split
  · rename_i found
    simp [← nothing, found]
  · rename_i missing
    simp [← nothing, missing]

/-- A manifest is read exactly when its text can be decoded and no entry contradicts itself. -/
theorem read_eq_ok_iff (source filename : String) (manifest : Manifest) :
    read source filename = .ok manifest ↔ decode source = .ok manifest ∧ manifest.Consistent := by
  unfold read
  cases decode source with
  | error cause => simp
  | ok decoded =>
    rw [← validate_eq_ok_iff manifest filename]
    -- The check keeps the manifest as it is, so what is accepted is what was decoded.
    cases valid : decoded.validate filename with
    | error error =>
      simp only [Bind.bind, Except.bind, valid, Except.ok.injEq, reduceCtorEq, false_iff, not_and]
      rintro rfl
      simp [valid]
    | ok accepted =>
      simp only [Bind.bind, Except.bind, valid, Pure.pure, Except.pure, Except.ok.injEq]
      constructor
      · rintro rfl
        exact ⟨rfl, valid⟩
      · rintro ⟨rfl, _⟩
        rfl

/-- Parsing gives what reading gives, and only its log besides. -/
theorem parse_value (source filename : String) :
    (parse source filename).value = read source filename := by
  unfold parse
  cases read source filename <;> rfl

/-- No entry of an accepted manifest contradicts itself. -/
theorem consistent_of_parse {source filename : String} {manifest : Manifest}
    (accepted : (parse source filename).value = .ok manifest) : manifest.Consistent := by
  rw [parse_value, read_eq_ok_iff] at accepted
  exact accepted.2

/-- A source is accepted where something is seen of what is parsed. -/
theorem exists_of_seen {α : Type} {source filename : String} {see : Manifest → α} {value : α}
    (seen : (parse source filename).value.toOption.map see = some value) :
    ∃ manifest, (parse source filename).value = .ok manifest ∧ see manifest = value := by
  obtain ⟨manifest, parsed, same⟩ := Option.map_eq_some_iff.mp seen
  cases outcome : (parse source filename).value with
  | error error => simp [outcome, Except.toOption] at parsed
  | ok accepted =>
    simp only [outcome, Except.toOption, Option.some.injEq] at parsed
    exact ⟨manifest, by rw [parsed], same⟩

end Manifest

end DeclGen
