import DeclGen.Manifest.Edit
import DeclGen.Proofs.Manifest.Conversion
import DeclGen.Proofs.Manifest.Validation

/-! Whatever is edited, no entry of an accepted manifest comes to contradict itself. -/

namespace DeclGen

namespace Manifest

/-- The manifest behind an edit; one that fails leaves it as it was. -/
def after (manifest : Manifest) (edit : Edit) : Manifest :=
  match (manifest.edit edit).value with
  | .ok next => next
  | .error _ => manifest

/-- The manifest behind a run of edits, from the first to the last. -/
def afterAll (manifest : Manifest) (edits : List Edit) : Manifest :=
  edits.foldl after manifest

/-- Exchanging two entries brings in no other one. -/
theorem mem_of_mem_exchange {entries : List Entry} {index other : Nat} {entry : Entry}
    (member : entry ∈ exchange entries index other) : entry ∈ entries := by
  unfold exchange at member
  split at member
  · rename_i one two atIndex atOther
    -- Both writes put an entry that was there.
    rcases List.mem_or_eq_of_mem_set member with member | rfl
    · rcases List.mem_or_eq_of_mem_set member with member | rfl
      · exact member
      · exact List.mem_of_getElem? atOther
    · exact List.mem_of_getElem? atIndex
  · exact member

/-- An entry behind an edit was there before or is one of an accepted source. -/
theorem mem_of_mem_edit {manifest next : Manifest} {edit : Edit}
    (edited : (manifest.edit edit).value = .ok next) {entry : Entry}
    (member : entry ∈ next.entries) :
    entry ∈ manifest.entries ∨
      ∃ source parsed, edit = .append source ∧
        (parse source defaultName).value = .ok parsed ∧ entry ∈ parsed.entries := by
  cases edit with
  | append source =>
    cases parsed : (parse source defaultName).value with
    | error error => simp [Manifest.edit, Logged.map, parsed, Except.map] at edited
    | ok other =>
      simp only [Manifest.edit, Logged.map, parsed, Except.map, Except.ok.injEq] at edited
      subst next
      -- An entry of the longer list was there before or came with the other source.
      rcases List.mem_append.mp member with member | member
      · exact .inl member
      · exact .inr ⟨source, other, rfl, parsed, member⟩
  | clear =>
    simp only [Manifest.edit, Except.ok.injEq] at edited
    subst next
    -- Nothing is left that the entry could be in.
    simp [withEntries] at member
  | remove index =>
    simp only [Manifest.edit, Except.ok.injEq] at edited
    subst next
    exact .inl (List.mem_of_mem_eraseIdx member)
  | duplicate index =>
    simp only [Manifest.edit, Except.ok.injEq] at edited
    subst next
    -- The copy is one of the entries that were there.
    rcases List.mem_append.mp member with member | member
    · exact .inl member
    · exact .inl (List.mem_of_getElem? (by simpa using member))
  | swap index other =>
    simp only [Manifest.edit, Except.ok.injEq] at edited
    subst next
    exact .inl (mem_of_mem_exchange member)
  | configure settings =>
    simp only [Manifest.edit, Except.ok.injEq] at edited
    subst next
    exact .inl member

/-- An edit keeps a manifest consistent, and so does one that fails. -/
theorem after_consistent {manifest : Manifest} (consistent : manifest.Consistent) (edit : Edit) :
    (manifest.after edit).Consistent := by
  unfold after
  split
  · rename_i next edited
    intro entry member
    -- What comes from a source was checked when that source was accepted.
    rcases mem_of_mem_edit edited member with member | ⟨source, parsed, -, accepted, member⟩
    · exact consistent entry member
    · exact consistent_of_parse accepted entry member
  · exact consistent

/-- A run of edits keeps a manifest consistent. -/
theorem afterAll_consistent {manifest : Manifest} (consistent : manifest.Consistent)
    (edits : List Edit) : (manifest.afterAll edits).Consistent := by
  -- Each edit starts from a consistent manifest and leaves one behind.
  induction edits generalizing manifest with
  | nil => exact consistent
  | cons edit edits ih => exact ih (after_consistent consistent edit)

/-- A source that is rejected cannot be appended. -/
theorem after_append_of_error {source : String} {error : ManifestError}
    (rejected : (parse source defaultName).value = .error error) (manifest : Manifest) :
    (manifest.edit (.append source)).value = .error error ∧
      manifest.after (.append source) = manifest := by
  have failed : (manifest.edit (.append source)).value = .error error := by
    simp [edit, Logged.map, rejected, Except.map]
  exact ⟨failed, by simp [after, failed]⟩

/--
No member is lost between a source and the module, whatever edits come between them.

Every state is valid, and an entry with members becomes an enum whose block lists all of them. A
source that is rejected changes nothing.
-/
theorem members_survive_edits {source filename : String} {start : Manifest}
    (accepted : (parse source filename).value = .ok start) (edits : List Edit) :
    (∀ sourceName, (start.afterAll edits).validate sourceName = .ok ()) ∧
      (∀ entry ∈ (start.afterAll edits).entries, entry.members ≠ [] →
        let settings := (start.afterAll edits).settings
        let declaration := (entry.toDeclaration settings).value
        let block := Member.renderAll settings entry.members
        declaration.kind = some .enum ∧ declaration.block = some block ∧ block ≠ "" ∧
          declaration.body =
            (present declaration.content).getD "" ++ declaration.blockBody block) ∧
      ∀ appended error, (parse appended defaultName).value = .error error →
        ((start.afterAll edits).edit (.append appended)).value = .error error ∧
          (start.afterAll edits).after (.append appended) = start.afterAll edits := by
  have consistent := afterAll_consistent (consistent_of_parse accepted) edits
  refine ⟨fun sourceName => (validate_eq_ok_iff _ sourceName).mpr consistent, ?_, ?_⟩
  · intro entry member filled settings declaration block
    obtain ⟨isEnum, noBlock⟩ :=
      (Entry.contradiction_eq_none_iff entry).mp (consistent entry member) filled
    have kind : declaration.kind = some .enum := by
      rw [show declaration.kind = entry.knownKind from Entry.record_kind settings entry]
      exact (Entry.knownKind_eq_enum_iff entry).mpr isEnum
    have given : declaration.block = some block :=
      (Entry.record_block settings entry).trans (Entry.body_of_members settings noBlock filled)
    -- A block without text would count as absent, so the body would go without its members.
    have text : block ≠ "" := Member.renderAll_ne_empty settings filled
    exact ⟨kind, given, text, Declaration.body_of_block given text⟩
  · intro appended error rejected
    exact after_append_of_error rejected _

/--
A copy of an accepted enum still lists its members under other settings, and a source with a
misspelled key cannot be appended to it.
-/
theorem members_survive_edits_of_copy :
    ∃ start entry error,
      (parse "[[declarations]]\nkind=\"enum\"\nmembers=[[\"RED\",\"1\"]]" "colors").value =
          .ok start ∧
        entry ∈ (start.afterAll [.duplicate 0, .configure { memberSeparator := ":" }]).entries ∧
        entry.members = [⟨"RED", "1", none⟩] ∧
        ((entry.toDeclaration { memberSeparator := ":" }).value).block =
          some (Member.renderAll { memberSeparator := ":" } [⟨"RED", "1", none⟩]) ∧
        (parse "declaration=[]" defaultName).value = .error error ∧
        (start.afterAll [.duplicate 0, .configure { memberSeparator := ":" }]).after
            (.append "declaration=[]") =
          start.afterAll [.duplicate 0, .configure { memberSeparator := ":" }] := by
  -- The two sources are evaluated; all else follows from the theorem.
  have listed : (parse "[[declarations]]\nkind=\"enum\"\nmembers=[[\"RED\",\"1\"]]"
      "colors").value.toOption.map (·.entries) =
      some [{ kind := some "enum", members := [⟨"RED", "1", none⟩] }] := by
    decide +kernel
  have refused : (parse "declaration=[]" defaultName).value.toOption.isNone := by
    decide +kernel
  cases accepted : (parse "[[declarations]]\nkind=\"enum\"\nmembers=[[\"RED\",\"1\"]]"
      "colors").value with
  | error error => simp [accepted, Except.toOption] at listed
  | ok start =>
    cases rejected : (parse "declaration=[]" defaultName).value with
    | ok manifest => simp [rejected, Except.toOption] at refused
    | error error =>
      simp only [accepted, Except.toOption, Option.map_some, Option.some.injEq] at listed
      have survives := members_survive_edits accepted
        [.duplicate 0, .configure { memberSeparator := ":" }]
      have member : { kind := some "enum", members := [⟨"RED", "1", none⟩] } ∈
          (start.afterAll [.duplicate 0, .configure { memberSeparator := ":" }]).entries := by
        simp [afterAll, after, edit, withEntries, listed]
      exact ⟨start, _, error, rfl, member, rfl, (survives.2.1 _ member (by simp)).2.1, rfl,
        (survives.2.2 _ error rejected).2⟩

end Manifest

end DeclGen
