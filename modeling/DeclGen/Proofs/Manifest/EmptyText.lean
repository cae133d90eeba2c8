import DeclGen.Proofs.Manifest.Influence
import Mathlib.Data.List.Forall2

/-!
An empty text is as good as none, in a declaration and in a manifest that is valid.

The record of an entry with an empty block would go without its members, so for manifests this rests
on validation, which refuses members next to any block.
-/

namespace DeclGen

namespace Declaration

/-- Two declarations that differ in empty texts at most, which are given in one of them only. -/
structure SameTexts (one other : Declaration) : Prop where
  settings : one.settings = other.settings
  kind : one.kind = other.kind
  name : one.name = other.name
  ignoreBlockWrapper : one.ignoreBlockWrapper = other.ignoreBlockWrapper
  generics : present one.generics = present other.generics
  decorator : present one.decorator = present other.decorator
  content : present one.content = present other.content
  block : present one.block = present other.block
  method : present one.method = present other.method
  comment : present one.comment = present other.comment

/-- No part of a declaration is written otherwise where an empty text is given or not. -/
theorem render_eq_of_sameTexts {one other : Declaration} (same : one.SameTexts other) :
    one.render = other.render := by
  -- Two of the texts are put in without a look at whether they are present.
  have generics : one.generics.getD "" = other.generics.getD "" := by
    rw [← getD_present, same.generics, getD_present]
  have comment : one.comment.getD "" = other.comment.getD "" := by
    rw [← getD_present, same.comment, getD_present]
  have fullName : one.fullName = other.fullName := by
    simp only [Declaration.fullName, same.name, generics]
  have wrapper : one.wrapper = other.wrapper := by
    simp only [Declaration.wrapper, same.ignoreBlockWrapper, same.settings]
  -- The comment is compared as it is written, and the other texts as they are given.
  have around : { one with comment := other.comment }.SameAround other :=
    ⟨same.kind, fullName, same.decorator, same.content, rfl⟩
  have within : { one with comment := other.comment }.SameWithin other :=
    ⟨same.block, same.method, wrapper, congrArg Settings.transformer same.settings⟩
  have commented : one.render = { one with comment := other.comment }.render := by
    simp only [render, comment]
    rfl
  rw [commented]
  exact render_eq_of_body around (body_eq_of_sameWithin around within)

end Declaration

/-- A text is kept, or deleted because it is empty. -/
inductive Trimmed : Option String → Option String → Prop where
  | kept (text : Option String) : Trimmed text text
  | deleted : Trimmed (some "") none

namespace Trimmed

variable {text trimmed : Option String}

/-- An empty text is no more present than a missing one. -/
theorem present_eq (trim : Trimmed text trimmed) : present trimmed = present text := by
  cases trim <;> rfl

/-- A text that is not empty is kept. -/
theorem eq_of_ne (trim : Trimmed text trimmed) (filled : text ≠ some "") : trimmed = text := by
  cases trim with
  | kept => rfl
  | deleted => exact absurd rfl filled

/-- A comment is looked for in what is left. -/
theorem text?_eq (trim : Trimmed text trimmed) :
    (CommentSource.ofOption trimmed).text? = (CommentSource.ofOption text).text? := by
  cases trim with
  | kept => rfl
  | deleted => simp [CommentSource.ofOption, CommentSource.text?]

/-- Leaving out a text that is not present is a trim. -/
theorem of_present (text : Option String) : Trimmed text (present text) := by
  cases text with
  | none => exact .kept none
  | some given =>
    by_cases empty : given = ""
    · subst empty
      exact .deleted
    · rw [show present (some given) = some given by simp [present, Option.filter, empty]]
      exact .kept _

end Trimmed

/-- A member loses its comment at most, if that is empty. -/
structure Member.Trimmed (member trimmed : Member) : Prop where
  name : trimmed.name = member.name
  value : trimmed.value = member.value
  comment : DeclGen.Trimmed member.comment trimmed.comment

/-- An entry loses some of its empty texts, and its members some of their empty comments. -/
structure Entry.Trimmed (entry trimmed : Entry) : Prop where
  kind : DeclGen.Trimmed entry.kind trimmed.kind
  name : DeclGen.Trimmed (entry.name.map (·.value)) (trimmed.name.map (·.value))
  generics : DeclGen.Trimmed entry.generics trimmed.generics
  decorator : DeclGen.Trimmed entry.decorator trimmed.decorator
  content : DeclGen.Trimmed entry.content trimmed.content
  block : DeclGen.Trimmed entry.block trimmed.block
  method : DeclGen.Trimmed entry.method trimmed.method
  ignoreBlockWrapper : trimmed.ignoreBlockWrapper = entry.ignoreBlockWrapper
  comment : DeclGen.Trimmed entry.comment trimmed.comment
  members : List.Forall₂ Member.Trimmed entry.members trimmed.members

/-- An entry without any empty text. -/
def Entry.withoutEmpty (entry : Entry) : Entry :=
  { entry with
    kind := present entry.kind
    name := entry.name.filter (·.value ≠ "")
    generics := present entry.generics
    decorator := present entry.decorator
    content := present entry.content
    block := present entry.block
    method := present entry.method
    comment := present entry.comment
    members := entry.members.map fun member => { member with comment := present member.comment } }

namespace Entry

variable {entry trimmed : Entry}

/-- Leaving out all empty texts of an entry trims it. -/
theorem trimmed_withoutEmpty (entry : Entry) : entry.Trimmed entry.withoutEmpty where
  kind := .of_present _
  name := by
    -- A name has a place beside its text, and is taken out whole if the text is empty.
    have named : (entry.name.filter (·.value ≠ "")).map (·.value) =
        present (entry.name.map (·.value)) := by
      cases entry.name with
      | none => rfl
      | some name =>
        by_cases empty : name.value = "" <;> simp [present, Option.filter, empty]
    simp only [withoutEmpty, named]
    exact .of_present _
  generics := .of_present _
  decorator := .of_present _
  content := .of_present _
  block := .of_present _
  method := .of_present _
  ignoreBlockWrapper := rfl
  comment := .of_present _
  members := by
    rw [withoutEmpty, List.forall₂_map_right_iff, List.forall₂_same]
    exact fun member _ => ⟨rfl, rfl, .of_present _⟩

/-- An empty text names no kind, so an entry that loses it has none, as before. -/
theorem knownKind_trimmed (trim : entry.Trimmed trimmed) : trimmed.knownKind = entry.knownKind := by
  have kind := trim.kind
  unfold knownKind parsedKind
  -- Only the two texts matter from here on.
  revert kind
  generalize entry.kind = before
  generalize trimmed.kind = after
  rintro (_ | _)
  · rfl
  · decide

/-- Trimming keeps every member, so it neither makes nor empties their list. -/
theorem members_trimmed_iff (trim : entry.Trimmed trimmed) :
    trimmed.members = [] ↔ entry.members = [] := by
  rw [← List.length_eq_zero_iff, ← trim.members.length_eq, List.length_eq_zero_iff]

/-- Neither the name of a kind that allows members nor a missing block comes by a deletion. -/
theorem contradiction_trimmed (trim : entry.Trimmed trimmed)
    (consistent : entry.contradiction = none) : trimmed.contradiction = none := by
  rw [contradiction_eq_none_iff] at consistent ⊢
  intro filled
  -- With members left the entry had some, so it is an enum and has no block.
  obtain ⟨isEnum, noBlock⟩ := consistent ((members_trimmed_iff trim).not.mp filled)
  have kind := trim.kind.eq_of_ne (by simp [isEnum])
  have block := trim.block.eq_of_ne (by simp [noBlock])
  exact ⟨kind.trans isEnum, block.trans noBlock⟩

/-- Members are written alike with and without empty comments. -/
theorem renderAll_trimmed (settings : Settings) (trim : entry.Trimmed trimmed) :
    Member.renderAll settings trimmed.members = Member.renderAll settings entry.members := by
  have each : List.Forall₂ (fun member after => member.render settings = after.render settings)
      entry.members trimmed.members := by
    refine trim.members.imp fun member after trim => ?_
    -- Members look for a comment by themselves, where an empty one is none.
    simp only [Member.render, Member.binding, Comment.renderWith, trim.name, trim.value,
      trim.comment.text?_eq]
  have written := List.forall₂_map_left_iff.mpr (List.forall₂_map_right_iff.mpr each)
  rw [List.forall₂_eq_eq_eq] at written
  rw [Member.renderAll, Member.renderAll, written]

/-- The body stays as it is, as far as it is written. -/
theorem present_body_trimmed (settings : Settings) (trim : entry.Trimmed trimmed)
    (consistent : entry.contradiction = none) :
    present (trimmed.body settings) = present (entry.body settings) := by
  by_cases listed : entry.members = []
  · -- Without members the block is the body.
    have unlisted := (members_trimmed_iff trim).mpr listed
    have blockBody : ∀ other : Entry, other.members = [] → other.body settings = other.block := by
      intro other none
      cases given : other.block <;> simp [body, given, none]
    rw [blockBody entry listed, blockBody trimmed unlisted, trim.block.present_eq]
  · -- With members there is no block to be deleted.
    have noBlock := ((contradiction_eq_none_iff entry).mp consistent listed).2
    have noBlock' := (trim.block.eq_of_ne (by simp [noBlock])).trans noBlock
    have listed' := (members_trimmed_iff trim).not.mpr listed
    rw [body_of_members settings noBlock listed, body_of_members settings noBlock' listed',
      renderAll_trimmed settings trim]

/-- The records of both are the same but for empty texts. -/
theorem record_trimmed (settings : Settings) (trim : entry.Trimmed trimmed)
    (consistent : entry.contradiction = none) :
    (trimmed.record settings).SameTexts (entry.record settings) := by
  -- An entry without a name is named by the empty text.
  have name : trimmed.displayName = entry.displayName := by
    rw [displayName, displayName, ← getD_present, trim.name.present_eq, getD_present]
  rw [record_eq, record_eq]
  exact
    { settings := rfl
      kind := knownKind_trimmed trim
      name
      ignoreBlockWrapper := trim.ignoreBlockWrapper
      generics := trim.generics.present_eq
      decorator := trim.decorator.present_eq
      content := trim.content.present_eq
      block := present_body_trimmed settings trim consistent
      method := trim.method.present_eq
      comment := by rw [trim.comment.text?_eq] }

end Entry

namespace Manifest

/-- Trimmed entries are as consistent as the entries, and are written alike. -/
theorem segments_trimmed (settings : Settings) {entries trimmed : List Entry}
    (trim : List.Forall₂ Entry.Trimmed entries trimmed)
    (consistent : ∀ entry ∈ entries, entry.contradiction = none) :
    (∀ entry ∈ trimmed, entry.contradiction = none) ∧
      trimmed.map (segment settings) = entries.map (segment settings) := by
  -- The entries do not depend on each other, so each is compared with what is left of it.
  induction trim with
  | nil => simp
  | @cons entry after entries trimmed here others ih =>
    obtain ⟨valid, same⟩ := ih fun entry member => consistent entry (by simp [member])
    have first := consistent entry (by simp)
    have segment : segment settings after = segment settings entry := by
      rw [segment_eq, segment_eq]
      exact Declaration.render_eq_of_sameTexts (Entry.record_trimmed settings here first)
    refine ⟨?_, by rw [List.map_cons, List.map_cons, segment, same]⟩
    rw [List.forall_mem_cons]
    exact ⟨Entry.contradiction_trimmed here first, valid⟩

/-- A valid manifest stays valid, and its module the same, where empty texts are deleted. -/
theorem validate_trimmed {manifest : Manifest} {sourceName : String}
    (valid : manifest.validate sourceName = .ok ()) {entries : List Entry}
    (trim : List.Forall₂ Entry.Trimmed manifest.entries entries) :
    (manifest.withEntries entries).validate sourceName = .ok () ∧
      (manifest.withEntries entries).render.value = manifest.render.value := by
  rw [validate_eq_ok_iff] at valid ⊢
  obtain ⟨consistent, same⟩ := segments_trimmed manifest.settings trim valid
  refine ⟨consistent, ?_⟩
  change moduleText manifest.settings entries = moduleText manifest.settings manifest.entries
  -- The module is made of the segments of the entries, and these are the same.
  rw [moduleText_eq, moduleText_eq, same]

/--
Empty texts count as absent.

Two declarations that differ in empty texts at most are the same text. In a manifest that is valid
any empty texts of entries and comments of members can be deleted, and all of them at once: what is
left is valid and makes the same module.
-/
theorem empty_texts_are_absent :
    (∀ one other : Declaration, one.SameTexts other → one.render = other.render) ∧
      (∀ (manifest : Manifest) (sourceName : String),
        manifest.validate sourceName = .ok () →
        ∀ entries, List.Forall₂ Entry.Trimmed manifest.entries entries →
          (manifest.withEntries entries).validate sourceName = .ok () ∧
            (manifest.withEntries entries).render.value = manifest.render.value) ∧
      ∀ (manifest : Manifest) (sourceName : String),
        manifest.validate sourceName = .ok () →
        let bare := manifest.withEntries (manifest.entries.map Entry.withoutEmpty)
        bare.validate sourceName = .ok () ∧ bare.render.value = manifest.render.value := by
  refine ⟨fun one other => Declaration.render_eq_of_sameTexts,
    fun manifest sourceName valid entries => validate_trimmed valid,
    fun manifest sourceName valid => validate_trimmed valid ?_⟩
  -- Taking out all empty texts is one way of trimming.
  rw [List.forall₂_map_right_iff, List.forall₂_same]
  exact fun entry _ => entry.trimmed_withoutEmpty

/--
An enum that is only named by its kind loses three empty texts, one of them first, and an entry
whose kind and block are empty loses both.
-/
theorem empty_texts_are_absent_of_enum :
    let colors : Entry :=
      { kind := some "enum", name := some ⟨"", ⟨6, 2⟩⟩, decorator := some ""
        members := [⟨"RED", "1", some ""⟩] }
    let blank : Entry := { kind := some "", content := some "x", block := some "" }
    let manifest : Manifest := { entries := [colors, blank] }
    let plainer : Entry := { colors with decorator := none }
    let bare : List Entry :=
      [{ kind := some "enum", members := [⟨"RED", "1", none⟩] }, { content := some "x" }]
    (Entry.record {} blank).SameTexts { content := some "x" } ∧
      (Entry.record {} blank).render = Declaration.render { content := some "x" } ∧
      manifest.validate "colors" = .ok () ∧
      List.Forall₂ Entry.Trimmed manifest.entries [plainer, blank] ∧
      (manifest.withEntries [plainer, blank]).render.value = manifest.render.value ∧
      manifest.entries.map Entry.withoutEmpty = bare ∧
      (manifest.withEntries bare).validate "colors" = .ok () ∧
      (manifest.withEntries bare).render.value = manifest.render.value := by
  intro colors blank manifest plainer bare
  obtain ⟨records, any, all⟩ := empty_texts_are_absent
  have same : (Entry.record {} blank).SameTexts { content := some "x" } := by
    constructor <;> rfl
  have valid : manifest.validate "colors" = .ok () := rfl
  have member : Member.Trimmed ⟨"RED", "1", some ""⟩ ⟨"RED", "1", some ""⟩ := ⟨rfl, rfl, .kept _⟩
  -- One empty text is taken out of the enum, and the empty comment of its member is kept.
  have first : colors.Trimmed plainer :=
    ⟨.kept _, .kept _, .kept _, .deleted, .kept _, .kept _, .kept _, rfl, .kept _,
      .cons member .nil⟩
  have trim : List.Forall₂ Entry.Trimmed manifest.entries [plainer, blank] :=
    .cons first (.cons ⟨.kept _, .kept _, .kept _, .kept _, .kept _, .kept _, .kept _, rfl, .kept _,
      .nil⟩ .nil)
  have left : manifest.entries.map Entry.withoutEmpty = bare := by decide +kernel
  have deleted := all manifest "colors" valid
  rw [left] at deleted
  exact ⟨same, records _ _ same, valid, trim, (any manifest "colors" valid _ trim).2, left,
    deleted⟩

end Manifest

end DeclGen
