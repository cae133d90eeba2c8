import DeclGen.Proofs.Declaration.Alias
import DeclGen.Proofs.Manifest.Image
import DeclGen.Proofs.Manifest.Influence

/-!
Declarations without a name: their alias is written like any other, and nothing is bound by it.

Whether a declaration has an alias follows from its kind, its block and its content alone. So the
line is there without a name as well, and then nothing stands behind its sign.
-/

namespace DeclGen

namespace Declaration

variable {declaration : Declaration}

/-- The alias of a declaration is found in its text exactly where one is written. -/
theorem selfReference_infix_render_iff (identity : declaration.settings.transformer = .identity)
    (plain : ∀ text ∈ declaration.texts, '_' ∉ text.toList) :
    (selfReference declaration.fullName).toList <:+: declaration.render.toList ↔
      declaration.BindsAlias := by
  constructor
  · intro found
    -- An alias brings its mark in, of which there would be no occurrence.
    have marked : selfReferenceMark.toList <:+: declaration.render.toList := by
      refine List.IsInfix.trans ?_ found
      simp only [selfReference, String.toList_append, List.append_assoc]
      exact (List.prefix_append _ _).isInfix
    by_contra unbound
    have none : Text.occurrences selfReferenceMark.toList declaration.render.toList = 0 := by
      rw [occurrences_render plain identity, if_neg unbound]
    exact (Text.occurrences_eq_zero_iff (by decide) _).mp none marked
  · intro binds
    refine ⟨(declaration.aboveAlias ++ "\n").toList, (declaration.afterAlias ++ "\n").toList, ?_⟩
    rw [render_of_bindsAlias identity binds, aliasLine]
    simp only [String.toList_append, List.append_assoc]

/-- Without a name nothing stands behind the sign of the alias, but for the end of a call. -/
theorem render_of_anonymous (identity : declaration.settings.transformer = .identity)
    (anonymous : declaration.fullName = "") (binds : declaration.BindsAlias) :
    declaration.render =
      declaration.aboveAlias ++ "\n" ++ "__GQL_CODEGEN___ = " ++ declaration.afterAlias ++
        "\n" := by
  have line : selfReference declaration.fullName = "__GQL_CODEGEN___ = " := by
    rw [anonymous]
    rfl
  rw [render_of_bindsAlias identity binds, aliasLine, line]
  simp only [String.append_assoc]

end Declaration

namespace Entry

/-- An entry has its alias behind a body, unless it is a scalar, or behind inline content. -/
theorem bindsAlias_record_iff (settings : Settings) (entry : Entry) :
    (entry.record settings).BindsAlias ↔
      entry.HasBody ∧ entry.kind ≠ some "scalar" ∨
        ¬ entry.HasBody ∧ present entry.content ≠ none := by
  have content : (entry.record settings).content = entry.content := by rw [record_eq]
  -- A scalar is written with one name only, so the text tells whether it is one.
  have noScalar : entry.knownKind ≠ some .scalar ↔ entry.kind ≠ some "scalar" :=
    (knownKind_eq_some_iff_of_ne_plain (by decide) entry).not
  rw [Declaration.BindsAlias, record_block, record_kind, content, noScalar,
    ← present_body_iff settings, not_not]

/-- Members are accepted of enums only, which are no scalars. -/
theorem bindsAlias_record_iff_of_isConsistent (settings : Settings) {entry : Entry}
    (consistent : entry.contradiction = none) :
    (entry.record settings).BindsAlias ↔
      entry.members ≠ [] ∨ (present entry.block ≠ none ∧ entry.kind ≠ some "scalar") ∨
        (entry.members = [] ∧ present entry.block = none ∧ present entry.content ≠ none) := by
  rw [bindsAlias_record_iff, HasBody, WritesMembers]
  rw [contradiction_eq_none_iff] at consistent
  -- Members are consistent in an enum without a block only, which always has an alias.
  by_cases listed : entry.members = []
  · simp [listed]
  · obtain ⟨kind, bare⟩ := consistent listed
    simp [listed, kind, bare]

end Entry

namespace Manifest

/-- What is accepted changes no block, and none of its entries contradicts itself. -/
theorem identity_of_parse {source filename : String} {manifest : Manifest}
    (accepted : (parse source filename).value = .ok manifest) (entry : Entry) :
    (entry.record manifest.settings).settings.transformer = .identity := by
  rw [Entry.record_eq]
  exact (describable_of_parse accepted).settings.transformer

/--
A declaration without a name has an alias just where one with a name has it, and it binds nothing.

The alias is written behind a block unless the declaration is a scalar, and behind inline content in
any case; in an accepted manifest members are a block. It is the last line then, on which nothing
stands behind the sign but the parenthesis that closes a call.
-/
theorem anonymous_has_alias_iff {declaration : Declaration}
    (plain : ∀ text ∈ declaration.texts, '_' ∉ text.toList)
    (anonymous : declaration.fullName = "") :
    (declaration.settings.transformer = .identity →
        ((selfReference "").toList <:+: declaration.render.toList ↔
          (present declaration.block ≠ none ∧ declaration.kind ≠ some .scalar) ∨
            (present declaration.block = none ∧ present declaration.content ≠ none)) ∧
        ((selfReference "").toList <:+: declaration.render.toList →
          ∃ above, '_' ∉ above.toList ∧
            declaration.render =
              above ++ "\n" ++ "__GQL_CODEGEN___ = " ++ declaration.afterAlias ++ "\n")) ∧
      ∀ (source filename : String) (manifest : Manifest),
        (parse source filename).value = .ok manifest → ∀ entry ∈ manifest.entries,
        (entry.toDeclaration manifest.settings).value = declaration →
        declaration.settings.transformer = .identity ∧
          ((selfReference "").toList <:+: declaration.render.toList ↔
            entry.members ≠ [] ∨ (present entry.block ≠ none ∧ entry.kind ≠ some "scalar") ∨
              (entry.members = [] ∧ present entry.block = none ∧
                present entry.content ≠ none)) := by
  have binds (identity : declaration.settings.transformer = .identity) :
      (selfReference "").toList <:+: declaration.render.toList ↔ declaration.BindsAlias := by
    have found := Declaration.selfReference_infix_render_iff identity plain
    rwa [anonymous] at found
  refine ⟨fun identity => ⟨binds identity, fun aliased => ⟨declaration.aboveAlias,
    Declaration.plain_aboveAlias plain,
    Declaration.render_of_anonymous identity anonymous ((binds identity).mp aliased)⟩⟩, ?_⟩
  -- Settings that are accepted name no transformer, and members that are accepted are an enum's.
  rintro source filename manifest accepted entry member rfl
  have identity := identity_of_parse accepted entry
  have consistent : entry.contradiction = none := consistent_of_parse accepted entry member
  exact ⟨identity, (binds identity).trans
    (Entry.bindsAlias_record_iff_of_isConsistent manifest.settings consistent)⟩

/--
Two anonymous declarations bind nothing, one of them inside a call, and a third one has no alias; in
a manifest members are enough for one.
-/
theorem anonymous_has_alias_iff_of_three :
    let page : Declaration :=
      { settings := { blockWrapper := " #" }, kind := some .plain, generics := some ""
        content := some "(Base)", block := some "    pass", method := some "wrap" }
    let time : Declaration := { kind := some .scalar, block := some "    pass" }
    let colors : Entry := { kind := some "enum", members := [⟨"RED", "1", none⟩] }
    ((∀ text ∈ page.texts, '_' ∉ text.toList) ∧ page.fullName = "" ∧
        (selfReference "").toList <:+: page.render.toList ∧
        ∃ above, page.render = above ++ "\n" ++ "__GQL_CODEGEN___ = " ++ ")" ++ "\n") ∧
      ((∀ text ∈ time.texts, '_' ∉ text.toList) ∧ time.fullName = "" ∧
        ¬ (selfReference "").toList <:+: time.render.toList) ∧
      ∃ manifest,
        (parse "[[declarations]]\nkind='enum'\nmembers=[['RED','1']]" "a.toml").value =
            .ok manifest ∧
          manifest.entries = [colors] ∧
          (selfReference "").toList <:+:
            (colors.toDeclaration manifest.settings).value.render.toList := by
  intro page time colors
  -- Texts without an underscore cannot hold the name of a reference by chance.
  have plainPage : ∀ text ∈ page.texts, '_' ∉ text.toList := by decide
  have plainTime : ∀ text ∈ time.texts, '_' ∉ text.toList := by decide
  obtain ⟨found, bound⟩ := (anonymous_has_alias_iff plainPage rfl).1 rfl
  have aliased := found.mpr (by decide)
  refine ⟨⟨plainPage, rfl, aliased, ?_⟩, ⟨plainTime, rfl, ?_⟩, ?_⟩
  · obtain ⟨above, -, rendered⟩ := bound aliased
    exact ⟨above, rendered⟩
  · exact ((anonymous_has_alias_iff plainTime rfl).1 rfl).1.not.mpr (by decide)
  · -- The kernel reads the manifest, and the entry in it is written like the other records.
    obtain ⟨manifest, accepted, seen⟩ : ∃ manifest,
        (parse "[[declarations]]\nkind='enum'\nmembers=[['RED','1']]" "a.toml").value =
            .ok manifest ∧
          (manifest.entries, (colors.toDeclaration manifest.settings).value.texts) =
            ([colors], ["", "", "    RED = 1"]) :=
      exists_of_seen (by decide +kernel)
    simp only [Prod.mk.injEq] at seen
    have plain : ∀ text ∈ (colors.toDeclaration manifest.settings).value.texts,
        '_' ∉ text.toList := by
      rw [seen.2]
      decide
    have member : colors ∈ manifest.entries := by simp [seen.1]
    have converted := (anonymous_has_alias_iff plain rfl).2 _ _ manifest accepted colors member rfl
    exact ⟨manifest, accepted, seen.1, converted.2.mpr (.inl (by decide))⟩

/-- Inline content without a name is followed by an assignment with nothing to assign. -/
theorem nothing_is_bound_without_name :
    let declaration : Declaration := { content := some "import os" }
    declaration.settings.transformer = .identity ∧
      (∀ text ∈ declaration.texts, '_' ∉ text.toList) ∧ declaration.fullName = "" ∧
      declaration.render = "import os\n__GQL_CODEGEN___ = \n" ∧
      (selfReference "").toList <:+: declaration.render.toList ∧
      (parse "[[declarations]]\ncontent = 'import os'" "a.toml").value.toOption.map
          (·.render.value) =
        some "import os\n__GQL_CODEGEN___ = \n" := by
  intro declaration
  have rendered : declaration.render = "import os\n__GQL_CODEGEN___ = \n" := by decide +kernel
  refine ⟨rfl, by decide, rfl, rendered, ?_, by decide +kernel⟩
  rw [rendered]
  exact ⟨"import os\n".toList, "\n".toList, by decide⟩

end Manifest

end DeclGen
