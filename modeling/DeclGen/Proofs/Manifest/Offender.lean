import DeclGen.Proofs.Manifest.Validation
import Mathlib.Logic.Basic

/-!
The entry that validation tells about: the first one that contradicts itself.

A kind that is not that of an enum is told before a block, and what stands behind the entry, the
settings and the name of the source have no part in the verdict.
-/

namespace DeclGen

namespace Entry

variable {entry : Entry}

/-- An entry keeps the rules: it has no members, or it is an enum that is given no block. -/
def IsConsistent (entry : Entry) : Prop :=
  entry.members = [] ∨ entry.parsedKind = .ok (some .enum) ∧ entry.block = none

/-- A kind is known to be that of an enum exactly if it is parsed as that. -/
theorem knownKind_eq_enum_iff_parsedKind (entry : Entry) :
    entry.knownKind = some .enum ↔ entry.parsedKind = .ok (some .enum) := by
  unfold knownKind
  cases entry.parsedKind <;> simp [Except.toOption]

/-- What keeps the rules is no contradiction, and nothing else is none. -/
theorem contradiction_eq_none_iff_isConsistent (entry : Entry) :
    entry.contradiction = none ↔ entry.IsConsistent := by
  rw [contradiction_eq_none_iff, IsConsistent, ← knownKind_eq_enum_iff_parsedKind,
    knownKind_eq_enum_iff, or_iff_not_imp_left]

/-- Members contradict a kind that is not that of an enum, whether or not there is a block. -/
theorem contradiction_eq_membersOutsideEnum_iff (entry : Entry) :
    entry.contradiction = some .membersOutsideEnum ↔
      entry.members ≠ [] ∧ entry.parsedKind ≠ .ok (some .enum) := by
  rw [Ne, Ne, ← knownKind_eq_enum_iff_parsedKind, contradiction]
  split <;> rename_i listed
  · simp [listed]
  · -- The kind is asked for before the block, which could only give the other contradiction.
    split <;> rename_i kind
    · simp [listed, kind]
    · split <;> simp [kind]

/-- Members of an enum contradict a block, even an empty one. -/
theorem contradiction_eq_blockAndMembers_iff (entry : Entry) :
    entry.contradiction = some .blockAndMembers ↔
      entry.members ≠ [] ∧ entry.parsedKind = .ok (some .enum) ∧ entry.block ≠ none := by
  rw [← knownKind_eq_enum_iff_parsedKind, contradiction]
  -- The block is looked at last, where the members are known to be those of an enum.
  split <;> rename_i listed
  · simp [listed]
  · split <;> rename_i kind
    · simp [kind]
    · split <;> simp_all

end Entry

namespace Manifest

variable {front behind : List Entry} {offender : Entry}

/-- The first of some entries that contradicts itself, with how it does. -/
def firstOffence (entries : List Entry) : Option (Entry × Contradiction) :=
  entries.findSome? fun entry => entry.contradiction.map (entry, ·)

/-- What stands behind an entry that contradicts itself has no part in which one is the first. -/
theorem firstOffence_append_cons (offends : ¬ offender.IsConsistent) :
    firstOffence (front ++ offender :: behind) = firstOffence (front ++ [offender]) := by
  obtain ⟨cause, contradicts⟩ := Option.ne_none_iff_exists'.mp
    fun none => offends ((Entry.contradiction_eq_none_iff_isConsistent offender).mp none)
  simp only [firstOffence, List.findSome?_append, List.findSome?_cons, contradicts, Option.map_some]

/-- The first entry that contradicts itself is the one in front of which none does. -/
theorem firstOffence_eq_some_iff {entries : List Entry} {cause : Contradiction} :
    firstOffence entries = some (offender, cause) ↔
      ∃ front behind, entries = front ++ offender :: behind ∧
        (∀ earlier ∈ front, earlier.IsConsistent) ∧ offender.contradiction = some cause := by
  rw [firstOffence, List.findSome?_eq_some_iff]
  constructor
  · -- The search has passed over what is in front, and such an entry contradicts nothing.
    rintro ⟨front, here, behind, parts, found, before⟩
    obtain ⟨_, contradicts, same⟩ := Option.map_eq_some_iff.mp found
    cases same
    refine ⟨front, behind, parts, fun earlier member => ?_, contradicts⟩
    rw [← Entry.contradiction_eq_none_iff_isConsistent]
    exact Option.map_eq_none_iff.mp (before earlier member)
  · rintro ⟨front, behind, parts, before, contradicts⟩
    refine ⟨front, offender, behind, parts, by rw [contradicts]; rfl, fun earlier member => ?_⟩
    rw [(Entry.contradiction_eq_none_iff_isConsistent earlier).mpr (before earlier member)]
    rfl

/-- What validation says about a manifest, but for the name of the source. -/
def verdict (manifest : Manifest) (sourceName : String) : Except (String × List Label) Unit :=
  (manifest.validate sourceName).mapError fun error => (error.message, error.labels)

/-- The verdict follows from the first entry that contradicts itself, and from nothing else. -/
theorem verdict_of_firstOffence {manifest other : Manifest}
    (same : firstOffence other.entries = firstOffence manifest.entries)
    (sourceName sourceName' : String) :
    other.verdict sourceName' = manifest.verdict sourceName := by
  -- A verdict does not show the name of the source, nor anything but the offence.
  unfold firstOffence at same
  rw [verdict, verdict, validate, validate, same]
  cases manifest.entries.findSome? fun entry => entry.contradiction.map (entry, ·) with
  | none => rfl
  | some pair =>
    obtain ⟨⟨kind, name | name⟩, cause⟩ := pair <;> rfl

/-- Validation fails exactly with the first contradiction. -/
theorem validate_eq_error_iff (manifest : Manifest) (sourceName : String) (error : ManifestError) :
    manifest.validate sourceName = .error error ↔
      ∃ front offender behind, manifest.entries = front ++ offender :: behind ∧
        (∀ earlier ∈ front, earlier.IsConsistent) ∧
        ∃ cause, offender.contradiction = some cause ∧
          error = .invalid sourceName offender.name cause := by
  -- The error is the first offence, told with the name of its entry.
  have first : manifest.validate sourceName = .error error ↔
      ∃ offender cause, firstOffence manifest.entries = some (offender, cause) ∧
        error = .invalid sourceName offender.name cause := by
    unfold validate firstOffence
    cases manifest.entries.findSome? fun entry => entry.contradiction.map (entry, ·) with
    | none => simp
    | some pair =>
      obtain ⟨offender, cause⟩ := pair
      simp [and_assoc, @eq_comm _ error]
  simp only [first, firstOffence_eq_some_iff]
  constructor
  · rintro ⟨offender, cause, ⟨front, behind, parts, before, contradicts⟩, told⟩
    exact ⟨front, offender, behind, parts, before, cause, contradicts, told⟩
  · rintro ⟨front, offender, behind, parts, before, cause, contradicts, told⟩
    exact ⟨offender, cause, ⟨front, behind, parts, before, contradicts⟩, told⟩

/-- The two contradictions of an entry, each with the sentence that it is told with. -/
theorem told_iff (sourceName : String) (offender : Entry) (error : ManifestError) :
    (∃ cause, offender.contradiction = some cause ∧
        error = .invalid sourceName offender.name cause) ↔
      offender.members ≠ [] ∧ offender.parsedKind ≠ .ok (some .enum) ∧
          error = .invalid sourceName offender.name .membersOutsideEnum ∧
          error.message = "'" ++ offender.displayName ++ "' has members but is not an enum" ∨
        offender.members ≠ [] ∧ offender.parsedKind = .ok (some .enum) ∧ offender.block ≠ none ∧
          error = .invalid sourceName offender.name .blockAndMembers ∧
          error.message = "'" ++ offender.displayName ++ "' sets both `block` and `members`" := by
  constructor
  · rintro ⟨cause, contradicts, rfl⟩
    -- Each cause has a lemma that says which entries it is found in.
    cases cause with
    | membersOutsideEnum =>
      obtain ⟨listed, kind⟩ :=
        (Entry.contradiction_eq_membersOutsideEnum_iff offender).mp contradicts
      exact .inl ⟨listed, kind, rfl, rfl⟩
    | blockAndMembers =>
      obtain ⟨listed, kind, given⟩ :=
        (Entry.contradiction_eq_blockAndMembers_iff offender).mp contradicts
      exact .inr ⟨listed, kind, given, rfl, rfl⟩
  · rintro (⟨listed, kind, rfl, -⟩ | ⟨listed, kind, given, rfl, -⟩)
    · exact ⟨_, (Entry.contradiction_eq_membersOutsideEnum_iff offender).mpr ⟨listed, kind⟩, rfl⟩
    · exact ⟨_, (Entry.contradiction_eq_blockAndMembers_iff offender).mpr ⟨listed, kind, given⟩,
        rfl⟩

/-- A contradiction is told with the name of its entry and labelled at it, if it has one. -/
theorem labels_of_offender (sourceName : String) (offender : Entry) (cause : Contradiction) :
    (ManifestError.invalid sourceName offender.name cause).labels =
      offender.name.toList.map fun name => ⟨cause.message offender.displayName, name.span⟩ := by
  obtain ⟨kind, name | name⟩ := offender <;> rfl

/-- A text that is decoded is accepted as it was decoded, or refused for what validation says. -/
theorem parse_of_decode {source : String} {manifest : Manifest}
    (decoded : decode source = .ok manifest) (filename : String) :
    (parse source filename).value = (manifest.validate filename).map fun _ => manifest := by
  rw [parse_value, read, decoded]
  cases valid : manifest.validate filename <;>
    simp [valid, Bind.bind, Except.bind, Except.map, Pure.pure, Except.pure]

/--
Validation accepts the manifests whose entries all keep the rules, and tells about the first other.

The kind of that entry is told first, and its block only if the kind is that of an enum. The verdict
does not depend on the settings, on the name of the source, or on what stands behind an entry that
breaks the rules. What is accepted stays as it was decoded.
-/
theorem validation_tells_first_offender (manifest : Manifest) (filename : String) :
    (manifest.validate filename = .ok () ↔
      ∀ entry ∈ manifest.entries, entry.members = [] ∨
        entry.parsedKind = .ok (some .enum) ∧ entry.block = none) ∧
    (∀ error, manifest.validate filename = .error error ↔
      ∃ front offender behind, manifest.entries = front ++ offender :: behind ∧
        (∀ earlier ∈ front, earlier.IsConsistent) ∧
        (offender.members ≠ [] ∧ offender.parsedKind ≠ .ok (some .enum) ∧
            error = .invalid filename offender.name .membersOutsideEnum ∧
            error.message = "'" ++ offender.displayName ++ "' has members but is not an enum" ∨
          offender.members ≠ [] ∧ offender.parsedKind = .ok (some .enum) ∧ offender.block ≠ none ∧
            error = .invalid filename offender.name .blockAndMembers ∧
            error.message = "'" ++ offender.displayName ++ "' sets both `block` and `members`") ∧
        error.labels = offender.name.toList.map fun name => ⟨error.message, name.span⟩) ∧
    (∀ (other : Manifest) (filename' : String),
      (other.entries = manifest.entries ∨
        ∃ front offender behind behind', manifest.entries = front ++ offender :: behind ∧
          other.entries = front ++ offender :: behind' ∧ ¬ offender.IsConsistent) →
      other.verdict filename' = manifest.verdict filename) ∧
    ∀ source, decode source = .ok manifest →
      (parse source filename).value = (manifest.validate filename).map fun _ => manifest := by
  refine ⟨?_, fun error => ?_, fun other filename' alike => ?_, fun source decoded =>
    parse_of_decode decoded filename⟩
  · rw [validate_eq_ok_iff, Consistent]
    simp only [Entry.contradiction_eq_none_iff_isConsistent, Entry.IsConsistent]
  · rw [validate_eq_error_iff]
    constructor
    · rintro ⟨front, offender, behind, parts, before, told⟩
      refine ⟨front, offender, behind, parts, before, (told_iff _ _ _).mp told, ?_⟩
      obtain ⟨cause, -, rfl⟩ := told
      exact labels_of_offender _ _ _
    · rintro ⟨front, offender, behind, parts, before, told, -⟩
      exact ⟨front, offender, behind, parts, before, (told_iff _ _ _).mpr told⟩
  · -- Both lists have the same first offence, as what stands behind it is never looked at.
    refine verdict_of_firstOffence ?_ filename filename'
    rcases alike with same | ⟨front, offender, behind, behind', parts, parts', offends⟩
    · rw [same]
    · rw [parts, parts', firstOffence_append_cons offends, ← firstOffence_append_cons offends]

/--
Of two offenders the first is told about, for its kind and not for its block, which is empty.

Nothing changes if the other one becomes an enum, under other settings and another name of the
source. A text without such an entry is accepted as it was decoded.
-/
theorem validation_tells_first_offender_of_two :
    let one : Entry :=
      { kind := some "class", name := some ⟨"A", ⟨3, 3⟩⟩, block := some ""
        members := [⟨"X", "1", none⟩] }
    let two : Entry := { block := some "pass", members := [⟨"Y", "2", none⟩] }
    let manifest : Manifest := { entries := [{}, one, two] }
    let other : Manifest := ⟨{ indent := .tab }, [{}, one, { two with kind := some "enum" }]⟩
    let error : ManifestError := .invalid "a.toml" one.name .membersOutsideEnum
    one.parsedKind ≠ .ok (some .enum) ∧ one.block ≠ none ∧
      manifest.validate "a.toml" = .error error ∧
      error.message = "'A' has members but is not an enum" ∧
      error.labels = [⟨"'A' has members but is not an enum", ⟨3, 3⟩⟩] ∧
      other.verdict "b.toml" = manifest.verdict "a.toml" ∧
      ∃ accepted, decode "[[declarations]]" = .ok accepted ∧
        (parse "[[declarations]]" "a.toml").value = .ok accepted := by
  intro one two manifest other error
  have kind : one.parsedKind ≠ .ok (some .enum) :=
    (Entry.knownKind_eq_enum_iff_parsedKind one).not.mp (by decide)
  have offends : ¬ one.IsConsistent := by simp [Entry.IsConsistent, kind, one]
  obtain ⟨-, told, verdict, -⟩ := validation_tells_first_offender manifest "a.toml"
  refine ⟨kind, by decide, (told error).mpr ⟨[{}], one, [two], rfl, ?_, ?_, rfl⟩, rfl, rfl, ?_, ?_⟩
  · simp [Entry.IsConsistent]
  · exact .inl ⟨by decide, kind, rfl, rfl⟩
  · exact verdict other "b.toml" (.inr ⟨[{}], one, [two], _, rfl, rfl, offends⟩)
  · -- The kernel accepts the source, so the verdict that was just proved is a good one.
    have accepted : (parse "[[declarations]]" "a.toml").value.toOption.isSome := by decide +kernel
    cases decoded : decode "[[declarations]]" with
    | error cause => simp [parse_value, read, decoded, Except.toOption] at accepted
    | ok parsed =>
      have same := (validation_tells_first_offender parsed "a.toml").2.2.2 _ decoded
      cases valid : parsed.validate "a.toml" with
      | error error => simp [same, valid, Except.map, Except.toOption] at accepted
      | ok _ => exact ⟨parsed, rfl, by rw [same, valid]; rfl⟩

end Manifest

end DeclGen
