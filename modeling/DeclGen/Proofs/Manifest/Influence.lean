import DeclGen.Proofs.Declaration.Calls
import DeclGen.Proofs.Manifest.Segments

/-!
What the settings reach of a module: they are passed along with every declaration, and come to light
in blocks only.

The wrapper and the transformer are put around a block, the separator and the unit are used up where
members are written into one, and a comment on a declaration is written without any of them.
-/

namespace DeclGen

namespace Declaration

variable {one other : Declaration}

/-- Two declarations with the same text around their blocks; an empty text is as good as none. -/
structure SameAround (one other : Declaration) : Prop where
  /-- Both have the same shape. -/
  kind : one.kind = other.kind
  /-- Both have the same name with its suffix, wherever it is divided. -/
  fullName : one.fullName = other.fullName
  /-- Both have the same line above. -/
  decorator : present one.decorator = present other.decorator
  /-- Both have the same inline content. -/
  content : present one.content = present other.content
  /-- Both have the same comment. -/
  comment : one.comment = other.comment

/-- Two declarations with the same block, and the same in force for it. -/
structure SameWithin (one other : Declaration) : Prop where
  /-- Both have the same block. -/
  block : present one.block = present other.block
  /-- Both pass it to the same method. -/
  method : present one.method = present other.method
  /-- The same wrapper is in force, for whatever reason. -/
  wrapper : one.wrapper = other.wrapper
  /-- Both blocks are transformed alike. -/
  transformer : one.settings.transformer = other.settings.transformer

/-- A declaration without a block has a body that no setting reaches. -/
theorem body_eq_of_noBlock (around : one.SameAround other) (bare : present one.block = none)
    (bare' : present other.block = none) : one.body = other.body := by
  unfold body
  rw [bare, bare', around.content]
  -- Either both have the same inline content, or both have no body at all.
  cases present other.content with
  | none => rfl
  | some content => simp only [inlineBody, around.kind, around.fullName]

/-- What is assembled around a block depends on the wrapper in force, and on no other setting. -/
theorem blockBody_eq (around : one.SameAround other) (within : one.SameWithin other)
    (block : String) : one.blockBody block = other.blockBody block := by
  have after : one.afterBlock = other.afterBlock := by
    simp only [afterBlock, around.kind, around.fullName, within.wrapper]
  simp only [blockBody, assembledBlock, after, within.wrapper, within.transformer, within.method]

/-- Two records that agree around and within a block have the same body. -/
theorem body_eq_of_sameWithin (around : one.SameAround other) (within : one.SameWithin other) :
    one.body = other.body := by
  cases shown : present other.block with
  | none => exact body_eq_of_noBlock around (within.block.trans shown) shown
  | some block =>
    unfold body
    rw [within.block, shown, around.content]
    simp only [blockBody_eq around within]

/-- Declarations with the same text around the same body are the same text. -/
theorem render_eq_of_body (around : one.SameAround other) (body : one.body = other.body) :
    one.render = other.render := by
  simp only [render, decoratorLine, header, around.kind, around.fullName, around.decorator,
    around.comment, body]

end Declaration

namespace Entry

/-- Members are written into a block where none is given. -/
def WritesMembers (entry : Entry) : Prop := entry.block = none ∧ entry.members ≠ []

/-- There is a block to write, given with some text or made of members. -/
def HasBody (entry : Entry) : Prop := present entry.block ≠ none ∨ entry.WritesMembers

/-- The comment of a record is written without a look at the settings. -/
theorem record_eq (settings : Settings) (entry : Entry) :
    entry.record settings =
      { settings
        kind := entry.knownKind
        name := entry.displayName
        generics := entry.generics
        decorator := entry.decorator
        content := entry.content
        block := entry.body settings
        method := entry.method
        ignoreBlockWrapper := entry.ignoreBlockWrapper
        comment := (CommentSource.ofOption entry.comment).text?.map fun text =>
          Comment.render 0 (.text text) } := by
  unfold record Declaration.withComment
  cases given : (CommentSource.ofOption entry.comment).text? with
  | none => rfl
  | some text => simp only [Declaration.fragment_zero given, Option.map_some]

/-- Records of one entry under different settings differ in their blocks at most. -/
theorem record_sameAround (settings settings' : Settings) (entry : Entry) :
    (entry.record settings').SameAround (entry.record settings) := by
  rw [record_eq, record_eq]
  exact ⟨rfl, rfl, rfl, rfl, rfl⟩

/-- The separator and the unit have a part in the body only where members are written. -/
theorem body_eq (entry : Entry) {settings settings' : Settings}
    (members : entry.WritesMembers →
      settings'.memberSeparator = settings.memberSeparator ∧ settings'.indent = settings.indent) :
    entry.body settings' = entry.body settings := by
  cases given : entry.block with
  | some block => simp only [body, given]
  | none =>
    cases listed : entry.members with
    | nil => simp only [body, given, listed]
    | cons first rest =>
      obtain ⟨separator, unit⟩ := members ⟨given, by simp [listed]⟩
      -- A member is written from its own texts, the separator and the unit.
      have each : Member.render settings' = Member.render settings := by
        funext member
        simp only [Member.render, Member.binding, separator, unit]
      simp only [body, given, listed, Member.renderAll, each]

/-- An entry has a body to write under all settings, or under none. -/
theorem present_body_iff (settings : Settings) (entry : Entry) :
    present (entry.body settings) ≠ none ↔ entry.HasBody := by
  cases given : entry.block with
  | some block => simp [body, HasBody, WritesMembers, given]
  | none =>
    by_cases listed : entry.members = []
    · simp [body, HasBody, WritesMembers, given, listed, present]
    · -- Members are never written as no text.
      have written := Member.renderAll_ne_empty settings listed
      rw [body_of_members settings given listed]
      simp [HasBody, WritesMembers, given, listed, present, written]

end Entry

namespace Manifest

/-- Two settings that agree in all that reaches an entry. -/
structure AgreeFor (entry : Entry) (settings settings' : Settings) : Prop where
  /-- A block, if there is one, is transformed alike. -/
  transformer : entry.HasBody → settings'.transformer = settings.transformer
  /-- Members, if they are written, have the same separator. -/
  separator : entry.WritesMembers → settings'.memberSeparator = settings.memberSeparator
  /-- Members, if they are written, have the same unit. -/
  unit : entry.WritesMembers → settings'.indent = settings.indent
  /-- A block, if there is one, has the same wrapper, unless it goes without. -/
  wrapper : entry.HasBody → entry.ignoreBlockWrapper = false →
    settings'.blockWrapper = settings.blockWrapper

variable {settings settings' : Settings}

/-- A segment is the same text under settings that agree in all that reaches its entry. -/
theorem segment_eq_of_agreeFor {entry : Entry} (agree : AgreeFor entry settings settings') :
    segment settings' entry = segment settings entry := by
  have around := Entry.record_sameAround settings settings' entry
  have block : entry.body settings' = entry.body settings :=
    entry.body_eq fun writes => ⟨agree.separator writes, agree.unit writes⟩
  rw [segment_eq, segment_eq]
  change (entry.record settings').render = (entry.record settings).render
  refine Declaration.render_eq_of_body around ?_
  by_cases filled : entry.HasBody
  · -- There is a block, which is the same, and so is what is put around it.
    refine Declaration.body_eq_of_sameWithin around ?_
    rw [Entry.record_eq, Entry.record_eq]
    refine ⟨congrArg present block, rfl, ?_, agree.transformer filled⟩
    cases ignored : entry.ignoreBlockWrapper with
    | true => simp [Declaration.wrapper]
    | false => simp [Declaration.wrapper, agree.wrapper filled ignored]
  · -- There is no block under any settings.
    have bare : ∀ settings, present (entry.record settings).block = none := by
      intro settings
      have unfilled := (Entry.present_body_iff settings entry).not.mpr filled
      rwa [not_not, ← Entry.record_block] at unfilled
    exact Declaration.body_eq_of_noBlock around (bare settings') (bare settings)

/--
Settings reach a module through its blocks only.

Two declarations with the same text around their blocks are the same text if both have no block, or
the same one with the same method, wrapper in force and transformer. So a separator and a unit never
matter to a declaration, and leaving the wrapper out is having an empty one. In a module they matter
to entries whose members are written, and the wrapper to entries that have a block and do not leave
it out; no setting matters to the comment of an entry.
-/
theorem settings_reach_blocks :
    (∀ one other : Declaration, one.SameAround other →
        (present one.block = none ∧ present other.block = none) ∨ one.SameWithin other →
        one.render = other.render) ∧
      (∀ (declaration : Declaration) (memberSeparator : String) (indent : Indent),
        { declaration with
            settings := { declaration.settings with memberSeparator, indent } }.render =
          declaration.render) ∧
      (∀ declaration : Declaration,
        { declaration with ignoreBlockWrapper := true }.render =
          { declaration with
              settings := { declaration.settings with blockWrapper := "" } }.render) ∧
      (∀ (settings settings' : Settings) (entry : Entry),
        (entry.record settings').comment = (entry.record settings).comment) ∧
      (∀ (settings settings' : Settings) (entry : Entry), AgreeFor entry settings settings' →
        ∀ xs ys, moduleText settings' (xs ++ entry :: ys) =
          above settings' xs ++ segment settings entry ++ below settings' ys) ∧
      ∀ (settings settings' : Settings) (entries : List Entry),
        (∀ entry ∈ entries, AgreeFor entry settings settings') →
        moduleText settings' entries = moduleText settings entries := by
  refine ⟨fun one other around blocks => ?_, fun declaration separator unit => ?_,
    fun declaration => ?_, fun settings settings' entry => ?_,
    fun settings settings' entry agree xs ys => ?_, fun settings settings' entries agree => ?_⟩
  · refine Declaration.render_eq_of_body around ?_
    rcases blocks with ⟨bare, bare'⟩ | within
    · exact Declaration.body_eq_of_noBlock around bare bare'
    · exact Declaration.body_eq_of_sameWithin around within
  · -- Neither of the two is looked at outside of entries.
    exact Declaration.render_eq_of_body ⟨rfl, rfl, rfl, rfl, rfl⟩
      (Declaration.body_eq_of_sameWithin ⟨rfl, rfl, rfl, rfl, rfl⟩ ⟨rfl, rfl, rfl, rfl⟩)
  · -- In both declarations the wrapper in force is empty.
    have none : Declaration.wrapper { declaration with ignoreBlockWrapper := true } =
        Declaration.wrapper { declaration with
          settings := { declaration.settings with blockWrapper := "" } } := by
      simp [Declaration.wrapper]
    exact Declaration.render_eq_of_body ⟨rfl, rfl, rfl, rfl, rfl⟩
      (Declaration.body_eq_of_sameWithin ⟨rfl, rfl, rfl, rfl, rfl⟩ ⟨rfl, rfl, none, rfl⟩)
  · exact (Entry.record_sameAround settings settings' entry).comment
  · rw [moduleText_middle, segment_eq_of_agreeFor agree]
  · rw [moduleText_eq, moduleText_eq]
    exact congrArg Text.joinLines
      (List.map_congr_left fun entry member => segment_eq_of_agreeFor (agree entry member))

/--
An empty block is none, so no setting reaches it; an enum that leaves the wrapper out is reached by
the separator and the unit of its members, but not by the wrapper.
-/
theorem settings_reach_blocks_of_two :
    (let bare : Declaration := { kind := some .union, name := "U", content := some "A" }
      let emptied : Declaration := { settings := { blockWrapper := "#", indent := .tab }
                                     kind := some .union, name := "", generics := some "U"
                                     content := some "A", block := some "", method := some "f" }
      emptied.SameAround bare ∧ present emptied.block = none ∧ present bare.block = none ∧
        emptied.render = bare.render) ∧
      let colors : Entry := { kind := some "enum", comment := some "of\nlight"
                              members := [⟨"RED", "1", none⟩], ignoreBlockWrapper := true }
      AgreeFor colors {} { blockWrapper := "#" } ∧
        moduleText { blockWrapper := "#" } [colors, colors] = moduleText {} [colors, colors] := by
  obtain ⟨records, -, -, -, -, modules⟩ := settings_reach_blocks
  refine ⟨?_, ?_⟩
  · intro bare emptied
    have around : emptied.SameAround bare := ⟨rfl, rfl, rfl, rfl, rfl⟩
    have nothing : present emptied.block = none := by decide
    exact ⟨around, nothing, rfl, records _ _ around (.inl ⟨nothing, rfl⟩)⟩
  · intro colors
    have agree : AgreeFor colors {} { blockWrapper := "#" } := by
      -- The wrappers may differ, as this entry ignores them.
      refine ⟨fun _ => rfl, fun _ => rfl, fun _ => rfl, fun _ kept => ?_⟩
      simp [colors] at kept
    exact ⟨agree, modules _ _ _ (by simpa using agree)⟩

end Manifest

end DeclGen
