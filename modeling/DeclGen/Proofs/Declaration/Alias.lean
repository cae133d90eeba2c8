import DeclGen.Proofs.Declaration.Body
import DeclGen.Proofs.Text.Occurrences

/-!
The alias of a declared name is the last thing in its declaration, and stands nowhere else.

Where no text brings an underscore in, only the alias has any, and those behind its mark start no
other one. So a module has as many aliases as it has declarations that bind one.
-/

namespace DeclGen

/--
The mark in front of a text adds one occurrence, unless it joins with what follows to a second one.
-/
theorem occurrences_mark_append {tail : List Char} (apart : ¬ "_GQL_CODEGEN_".toList <+: tail) :
    Text.occurrences selfReferenceMark.toList (selfReferenceMark.toList ++ tail) =
      1 + Text.occurrences selfReferenceMark.toList tail := by
  -- A second mark would start at one of the underscores of the first. Only the last of them is
  -- followed by characters of the tail.
  have mark : selfReferenceMark.toList =
      ['_', '_', 'G', 'Q', 'L', '_', 'C', 'O', 'D', 'E', 'G', 'E', 'N', '_'] := rfl
  have inner : "_GQL_CODEGEN_".toList =
      ['_', 'G', 'Q', 'L', '_', 'C', 'O', 'D', 'E', 'G', 'E', 'N', '_'] := rfl
  rw [inner] at apart
  simp [mark, Text.occurrences, List.cons_prefix_cons, apart]

/-- The alias of a plain name has its mark in front, and no other one. -/
theorem occurrences_selfReference_append {name : String} {rest : List Char}
    (plain : '_' ∉ name.toList) (plainRest : '_' ∉ rest) :
    Text.occurrences selfReferenceMark.toList ((selfReference name).toList ++ rest) = 1 := by
  have mark : selfReferenceMark.toList = '_' :: "_GQL_CODEGEN_".toList := rfl
  have parts : (selfReference name).toList ++ rest =
      selfReferenceMark.toList ++
        (name.toList ++ ('_' :: '_' :: (" = ".toList ++ (name.toList ++ rest)))) := by
    simp [selfReference]
  -- Two underscores stand behind the name, and a blank behind them.
  have sign : Text.occurrences selfReferenceMark.toList
      ('_' :: '_' :: (" = ".toList ++ (name.toList ++ rest))) = 0 := by
    have last : '_' ∉ " = ".toList ++ (name.toList ++ rest) := by simp [plain, plainRest]
    have none := Text.occurrences_eq_zero_of_first_not_mem "_GQL_CODEGEN_".toList last
    rw [mark, Text.occurrences, Text.occurrences, none]
    simp [List.cons_prefix_cons]
  -- A name without underscores does not make another mark of the last underscore of this one.
  have apart : ¬ "_GQL_CODEGEN_".toList <+:
      name.toList ++ ('_' :: '_' :: (" = ".toList ++ (name.toList ++ rest))) := by
    cases characters : name.toList with
    | nil => simp [List.cons_prefix_cons]
    | cons c cs =>
      have other : '_' ≠ c := by
        rintro rfl
        exact plain (by simp [characters])
      simp [List.cons_prefix_cons, other]
  -- The mark itself is one occurrence, and the name behind it adds none.
  have behind := Text.occurrences_append_of_first_not_mem "_GQL_CODEGEN_".toList plain
    ('_' :: '_' :: (" = ".toList ++ (name.toList ++ rest)))
  rw [parts, occurrences_mark_append apart, mark, behind, ← mark, sign]

namespace Declaration

variable {declaration : Declaration}

/-- Whether the alias of its name is written for a declaration. -/
def BindsAlias (declaration : Declaration) : Prop :=
  (present declaration.block ≠ none ∧ declaration.kind ≠ some .scalar) ∨
    (present declaration.block = none ∧ present declaration.content ≠ none)

instance (declaration : Declaration) : Decidable declaration.BindsAlias :=
  inferInstanceAs (Decidable (_ ∨ _))

/-- What follows the alias: the parenthesis that closes a call of a method with the block. -/
def afterAlias (declaration : Declaration) : String :=
  if present declaration.block = none then "" else declaration.callClosing

/-- The alias with what follows it, which is one line if the name is. -/
def aliasLine (declaration : Declaration) : String :=
  selfReference declaration.fullName ++ declaration.afterAlias

/-- All of a declaration that stands above its alias. -/
def aboveAlias (declaration : Declaration) : String :=
  declaration.lead ++ declaration.header ++ (present declaration.content).getD "" ++
    match present declaration.block with
    | some block =>
      declaration.callOpening ++ declaration.openedBlock block ++ "\n" ++ declaration.wrapper
    | none => if declaration.kind = some .union then "]" else ""

/-- The alias takes the last line, and the newline in front of it closes what is above. -/
theorem render_of_bindsAlias (identity : declaration.settings.transformer = .identity)
    (binds : declaration.BindsAlias) :
    declaration.render = declaration.aboveAlias ++ "\n" ++ declaration.aliasLine ++ "\n" := by
  cases outer : present declaration.block with
  | some block =>
    have given := eq_some_of_present outer
    have filled := ne_empty_of_present outer
    have aliased : declaration.kind ≠ some .scalar := by simpa [BindsAlias, outer] using binds
    -- The identity leaves the alias at the end of the block, and the call is closed behind it.
    simp [render, lead, body_of_block given filled, blockBody_eq_call, identity,
      BlockTransformer.identity, assembledBlock_of_alias aliased filled, aboveAlias, aliasLine,
      afterAlias, outer, String.append_assoc]
  | none =>
    cases inner : present declaration.content with
    | none => simp [BindsAlias, outer, inner] at binds
    | some content =>
      -- No call goes around inline content, so nothing follows the alias.
      simp [render, lead, body_of_content outer inner, inlineBody, aboveAlias, aliasLine,
        afterAlias, outer, inner, String.append_assoc]

/-- The alias is the last line but the empty one behind the newline that ends the text. -/
theorem lines_render_of_bindsAlias (identity : declaration.settings.transformer = .identity)
    (binds : declaration.BindsAlias) :
    Text.lines declaration.render =
      Text.lines declaration.aboveAlias ++ Text.lines declaration.aliasLine ++ [""] := by
  -- Nothing stands behind the last newline, which is one more line.
  have whole : declaration.render =
      declaration.aboveAlias ++ "\n" ++ (declaration.aliasLine ++ "\n" ++ "") := by
    rw [render_of_bindsAlias identity binds]
    simp [String.append_assoc]
  rw [whole, Text.lines_append_newline, Text.lines_append_newline, List.append_assoc]
  rfl

/-- The first line of an alias starts with its mark, even if the name has several. -/
theorem startingLines_of_bindsAlias (identity : declaration.settings.transformer = .identity)
    (binds : declaration.BindsAlias) :
    1 ≤ Text.startingLines selfReferenceMark.toList declaration.render := by
  have starts : selfReferenceMark.toList <+: (declaration.aliasLine ++ "\n").toList := by
    simp [aliasLine, selfReference, String.append_assoc]
  -- Only the lines below the newline are counted on, as the texts above may have the mark, too.
  have below := Text.one_le_startingLines (by decide) starts
  have whole : declaration.render =
      declaration.aboveAlias ++ "\n" ++ (declaration.aliasLine ++ "\n") := by
    rw [render_of_bindsAlias identity binds, String.append_assoc]
  rw [whole, Text.startingLines_append_newline]
  omega

/-- The alias is on one line if the full name is. -/
theorem newline_not_mem_aliasLine (single : '\n' ∉ declaration.fullName.toList) :
    '\n' ∉ declaration.aliasLine.toList := by
  -- At most a parenthesis follows the alias.
  have after : '\n' ∉ declaration.afterAlias.toList := by
    unfold afterAlias callClosing
    split
    · decide
    · split <;> decide
  simp [aliasLine, selfReference, selfReferenceMark, single, after]

section

variable (plain : ∀ text ∈ declaration.texts, '_' ∉ text.toList)

include plain

/-- What is shown of a field has no underscore, as a missing field shows nothing. -/
theorem plain_field (field : Option String)
    (given : ∀ text, field = some text → text ∈ declaration.texts) :
    '_' ∉ (field.getD "").toList := by
  cases shown : field with
  | none => simp
  | some text => exact plain text (given text shown)

/-- The full name has no underscore. -/
theorem plain_fullName : '_' ∉ declaration.fullName.toList := by
  have name := plain declaration.name (by simp [texts])
  have generics := plain_field plain declaration.generics (by simp +contextual [texts])
  simp [fullName, name, generics]

/-- The wrapper has no underscore, be it left out or not. -/
theorem plain_wrapper : '_' ∉ declaration.wrapper.toList := by
  have wrapper := plain declaration.settings.blockWrapper (by simp [texts])
  unfold Declaration.wrapper
  split <;> simp [wrapper]

/-- What stands in front of the body has no underscore in it. -/
theorem plain_front :
    '_' ∉ (declaration.lead ++ declaration.header ++
      (present declaration.content).getD "").toList := by
  have comment := plain_field plain declaration.comment (by simp +contextual [texts])
  have content := plain_field plain declaration.content (by simp +contextual [texts])
  -- The decorator brings a newline with it, and the kind one of a few fixed texts.
  have decorator : '_' ∉ declaration.decoratorLine.toList := by
    unfold decoratorLine
    split
    · rename_i decorator shown
      have line := plain decorator (by simp [texts, eq_some_of_present shown])
      simp [line]
    · simp
  have name := plain_fullName plain
  have keyword : '_' ∉ (Kind.keyword declaration.kind).toList := by
    rcases declaration.kind with _ | _ | _ | _ | _ <;> decide
  have suffix : '_' ∉ (Kind.suffix declaration.kind).toList := by
    rcases declaration.kind with _ | _ | _ | _ | _ <;> decide
  simp [lead, header, getD_present, comment, content, decorator, name, keyword, suffix]

/-- What opens a call has no underscore. -/
theorem plain_callOpening : '_' ∉ declaration.callOpening.toList := by
  -- There is a call only if a method is given.
  unfold callOpening
  split
  · rename_i method shown
    have called := plain method (by simp [texts, eq_some_of_present shown])
    simp [called]
  · simp

omit plain in
/-- What closes a call has no underscore. -/
theorem plain_callClosing : '_' ∉ declaration.callClosing.toList := by
  unfold callClosing
  split <;> decide

omit plain in
/-- Nothing behind the alias has an underscore. -/
theorem plain_afterAlias : '_' ∉ declaration.afterAlias.toList := by
  unfold afterAlias
  split
  · decide
  · exact plain_callClosing

/-- A block with the line that opens it has no underscore. -/
theorem plain_openedBlock {block : String} (given : declaration.block = some block) :
    '_' ∉ (declaration.openedBlock block).toList := by
  have inside := plain block (by simp [texts, given])
  simp [openedBlock, plain_wrapper plain, inside]

/-- No part above the alias has an underscore. -/
theorem plain_aboveAlias : '_' ∉ declaration.aboveAlias.toList := by
  have front := plain_front plain
  -- Behind the front there is a block in its call, or at most the bracket of a union.
  unfold aboveAlias
  rw [String.toList_append, List.mem_append, not_or]
  refine ⟨front, ?_⟩
  split
  · rename_i block shown
    simp [plain_callOpening plain, plain_openedBlock plain (eq_some_of_present shown),
      plain_wrapper plain]
  · split <;> decide

/-- A declaration that binds no alias has no underscore in it. -/
theorem plain_render_of_unbound (identity : declaration.settings.transformer = .identity)
    (unbound : ¬ declaration.BindsAlias) : '_' ∉ declaration.render.toList := by
  have front := plain_front plain
  cases outer : present declaration.block with
  | some block =>
    -- Behind the block of a scalar there is the wrapper at most.
    have given := eq_some_of_present outer
    have filled := ne_empty_of_present outer
    have scalar : declaration.kind = some .scalar := by simpa [BindsAlias, outer] using unbound
    have after : '_' ∉
        (if declaration.wrapper = "" then "" else "\n" ++ declaration.wrapper).toList := by
      split <;> simp [plain_wrapper plain]
    have whole : declaration.render =
        declaration.lead ++ declaration.header ++ (present declaration.content).getD "" ++
          (declaration.callOpening ++ declaration.openedBlock block ++
            (if declaration.wrapper = "" then "" else "\n" ++ declaration.wrapper) ++
            declaration.callClosing ++ "\n") := by
      simp [render, lead, body_of_block given filled, blockBody_eq_call, identity,
        BlockTransformer.identity, assembledBlock_of_scalar scalar filled, String.append_assoc]
    rw [whole, String.toList_append, List.mem_append, not_or]
    refine ⟨front, ?_⟩
    simp [plain_callOpening plain, plain_openedBlock plain given, after, plain_callClosing]
  | none =>
    -- Inline content would bind the alias, so there is no body at all.
    have absent : present declaration.content = none := by
      simpa [BindsAlias, outer] using unbound
    simp only [absent, Option.getD_none, String.append_empty] at front
    rw [render, body_of_nothing outer absent, String.append_empty, String.toList_append,
      List.mem_append, not_or]
    exact ⟨front, by decide⟩

/-- The mark of aliases occurs in a declaration once if it binds its alias, and else never. -/
theorem occurrences_render (identity : declaration.settings.transformer = .identity) :
    Text.occurrences selfReferenceMark.toList declaration.render.toList =
      if declaration.BindsAlias then 1 else 0 := by
  have mark : selfReferenceMark.toList = '_' :: "_GQL_CODEGEN_".toList := rfl
  by_cases binds : declaration.BindsAlias
  · -- Around the alias there is nothing that could start a mark or end one.
    have above : '_' ∉ declaration.aboveAlias.toList ++ ['\n'] := by simp [plain_aboveAlias plain]
    have after : '_' ∉ declaration.afterAlias.toList ++ ['\n'] := by simp [plain_afterAlias]
    have parts : declaration.render.toList =
        (declaration.aboveAlias.toList ++ ['\n']) ++
          ((selfReference declaration.fullName).toList ++
            (declaration.afterAlias.toList ++ ['\n'])) := by
      simp [render_of_bindsAlias identity binds, aliasLine]
    have behind := occurrences_selfReference_append (plain_fullName plain) after
    rw [mark] at behind ⊢
    rw [parts, Text.occurrences_append_of_first_not_mem _ above, behind, if_pos binds]
  · rw [mark, if_neg binds]
    exact Text.occurrences_eq_zero_of_first_not_mem _ (plain_render_of_unbound plain identity binds)

/-- As many lines of a declaration start with the mark of aliases as it binds aliases. -/
theorem startingLines_render (identity : declaration.settings.transformer = .identity) :
    Text.startingLines selfReferenceMark.toList declaration.render =
      if declaration.BindsAlias then 1 else 0 := by
  -- No more lines start with the mark than it occurs.
  have most : Text.startingLines selfReferenceMark.toList declaration.render ≤
      Text.occurrences selfReferenceMark.toList declaration.render.toList :=
    Text.startingLines_le_occurrences (by decide) (by decide) declaration.render
  rw [occurrences_render plain identity] at most
  by_cases binds : declaration.BindsAlias
  · -- The line behind the newline is one of them.
    rw [if_pos binds] at most ⊢
    have least := startingLines_of_bindsAlias identity binds
    omega
  · rw [if_neg binds] at most ⊢
    omega

end

/-- A module has one line with the mark for each declaration that binds its alias. -/
theorem startingLines_module {declarations : List Declaration}
    (all : ∀ declaration ∈ declarations, declaration.settings.transformer = .identity ∧
      ∀ text ∈ declaration.texts, '_' ∉ text.toList) :
    Text.startingLines selfReferenceMark.toList (Text.joinLines (declarations.map render)) =
      declarations.countP (·.BindsAlias) := by
  -- Without declarations there is one line, which is empty.
  by_cases none : declarations = []
  · subst none
    rfl
  rw [Text.startingLines_joinLines (by simpa using none), List.map_map]
  clear none
  -- From here on the sum and the count go through the same list.
  induction declarations with
  | nil => rfl
  | cons first rest ih =>
    have here := all first (by simp)
    have others := ih fun declaration member => all declaration (by simp [member])
    rw [List.map_cons, List.sum_cons, others, List.countP_cons, Function.comp_apply,
      startingLines_render here.2 here.1, Nat.add_comm]
    simp

/--
The alias of a name is written once and last, if it is written at all.

It is written behind a block unless the declaration is a scalar, and behind inline content in any
case. It then takes the last line, as far as the name has only one, and its mark occurs nowhere
else. So a module has one line with the mark for each declaration that binds its alias.
-/
theorem alias_once_and_last :
    (∀ declaration : Declaration, declaration.settings.transformer = .identity →
        (∀ text ∈ declaration.texts, '_' ∉ text.toList) →
        (declaration.BindsAlias →
          Text.occurrences selfReferenceMark.toList declaration.render.toList = 1 ∧
            ∃ above, declaration.render = above ++ "\n" ++ declaration.aliasLine ++ "\n" ∧
              Text.lines declaration.render =
                Text.lines above ++ Text.lines declaration.aliasLine ++ [""] ∧
              ('\n' ∉ declaration.fullName.toList →
                Text.lines declaration.render = Text.lines above ++ [declaration.aliasLine, ""])) ∧
        (¬ declaration.BindsAlias →
          Text.occurrences selfReferenceMark.toList declaration.render.toList = 0)) ∧
      ∀ declarations : List Declaration,
        (∀ declaration ∈ declarations, declaration.settings.transformer = .identity ∧
          ∀ text ∈ declaration.texts, '_' ∉ text.toList) →
        Text.startingLines selfReferenceMark.toList
            (Text.joinLines (declarations.map render)) =
          declarations.countP (·.BindsAlias) := by
  refine ⟨fun declaration identity plain => ⟨fun binds => ?_, fun unbound => ?_⟩,
    fun declarations all => ?_⟩
  · have lines := lines_render_of_bindsAlias identity binds
    refine ⟨by rw [occurrences_render plain identity, if_pos binds], declaration.aboveAlias,
      render_of_bindsAlias identity binds, lines, fun single => ?_⟩
    -- Of a name with one line the alias is one line, too.
    rw [lines, Text.lines_of_not_mem (newline_not_mem_aliasLine single), List.append_assoc]
    rfl
  · rw [occurrences_render plain identity, if_neg unbound]
  · exact startingLines_module all

/-- A class in a call and a union bind their aliases, and a scalar with a block binds none. -/
theorem alias_once_and_last_of_three :
    let page : Declaration :=
      { settings := { blockWrapper := " #" }, kind := some .plain, name := "Page"
        generics := some "[T]", block := some "    items: T", method := some "wrap"
        comment := some "# All of it\n" }
    let id : Declaration := { kind := some .scalar, name := "Id", block := some "    pass" }
    let result : Declaration := { kind := some .union, name := "Result", content := some "A, B" }
    (∀ declaration ∈ [page, id, result], declaration.settings.transformer = .identity ∧
        ∀ text ∈ declaration.texts, '_' ∉ text.toList) ∧
      page.BindsAlias ∧ page.aliasLine = "__GQL_CODEGEN_Page[T]__ = Page[T])" ∧
      Text.occurrences selfReferenceMark.toList page.render.toList = 1 ∧
      ¬ id.BindsAlias ∧ Text.occurrences selfReferenceMark.toList id.render.toList = 0 ∧
      Text.startingLines selfReferenceMark.toList
          (Text.joinLines ([page, id, result].map render)) = 2 := by
  intro page id result
  -- All three are written without an underscore, and none has a transformer.
  have all : ∀ declaration ∈ [page, id, result],
      declaration.settings.transformer = .identity ∧
        ∀ text ∈ declaration.texts, '_' ∉ text.toList := by
    simp only [List.forall_mem_cons, List.not_mem_nil, false_implies, implies_true, and_true]
    exact ⟨⟨rfl, by decide⟩, ⟨rfl, by decide⟩, ⟨rfl, by decide⟩⟩
  obtain ⟨each, module⟩ := alias_once_and_last
  have first := all page (by simp)
  have second := all id (by simp)
  -- A scalar with a block binds nothing, and the two others bind one name each.
  have binds : page.BindsAlias := by decide
  have unbound : ¬ id.BindsAlias := by decide
  exact ⟨all, binds, by decide, ((each page first.1 first.2).1 binds).1, unbound,
    (each id second.1 second.2).2 unbound, (module _ all).trans (by decide)⟩

end Declaration

end DeclGen
