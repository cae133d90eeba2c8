import DeclGen.Proofs.Declaration.Body

/-!
What the transformer of the settings is given of a declaration, and where its result goes.

It is applied once to a block, with the colon, the wrapper and the alias around it. The call of a
method and all that stands in front of the block are out of its reach.
-/

namespace DeclGen.Declaration

variable (declaration : Declaration)

/-- The declaration under another transformer, with all else as it is. -/
def withTransformer (transformer : BlockTransformer) : Declaration :=
  { declaration with settings := { declaration.settings with transformer } }

/-- What stands in front of a transformed block. -/
def frontOfBlock : String :=
  declaration.lead ++ declaration.header ++ (present declaration.content).getD "" ++
    declaration.callOpening

/-- What stands behind a transformed block. -/
def backOfBlock : String := declaration.callClosing ++ "\n"

variable {declaration} {block : String}

/-- The transformed block stands between two texts. -/
theorem render_of_block (given : declaration.block = some block) (filled : block ≠ "") :
    declaration.render =
      declaration.frontOfBlock ++
        declaration.settings.transformer.apply (declaration.assembledBlock block) ++
        declaration.backOfBlock := by
  rw [render, body_of_block given filled, blockBody_eq_call, frontOfBlock, backOfBlock, lead]
  simp only [String.append_assoc]

/-- What follows a block has lines of its own, unless it is empty. -/
theorem assembledBlock_eq (filled : block ≠ "") :
    declaration.assembledBlock block =
      declaration.openedBlock block ++
        if declaration.afterBlock = "" then "" else "\n" ++ declaration.afterBlock := by
  by_cases scalar : declaration.kind = some .scalar
  · have after : declaration.afterBlock = declaration.wrapper := if_pos scalar
    rw [assembledBlock_of_scalar scalar filled, after]
  · -- The alias has text in any case, so only scalars can have nothing behind their blocks.
    have after : declaration.afterBlock =
        declaration.wrapper ++ "\n" ++ selfReference declaration.fullName := if_neg scalar
    rw [assembledBlock_of_alias scalar filled, after, if_neg (by simp)]
    simp only [String.append_assoc]

/-- None of what is around a block, or is assembled with it, depends on the transformer. -/
theorem render_withTransformer_of_block (given : declaration.block = some block)
    (filled : block ≠ "") (transformer : BlockTransformer) :
    (declaration.withTransformer transformer).render =
      declaration.frontOfBlock ++ transformer.apply (declaration.assembledBlock block) ++
        declaration.backOfBlock := by
  have kept : (declaration.withTransformer transformer).block = some block := given
  exact render_of_block kept filled

/-- Without a block there is nothing to transform. -/
theorem render_withTransformer_of_bare (bare : present declaration.block = none)
    (transformer : BlockTransformer) :
    (declaration.withTransformer transformer).render = declaration.render := by
  -- Without a block the body is inline content or nothing, neither of which is transformed.
  have body : (declaration.withTransformer transformer).body = declaration.body := by
    cases inner : present declaration.content with
    | none => rw [body_of_nothing bare inner]; exact body_of_nothing bare inner
    | some content => rw [body_of_content bare inner]; exact body_of_content bare inner
  rw [render, render, body]
  rfl

/--
The transformer is given the assembled block of a declaration, and has no say in anything else.

What it is given starts with the colon, the wrapper and the whole block, and ends with the wrapper
and the alias. Its result stands behind the comment, the decorator, the header, the content and the
opening of the call, and in front of the parenthesis that closes the call. A declaration without a
block is the same text under every transformer.
-/
theorem transformer_is_given_block (declaration : Declaration) :
    (∀ block, declaration.block = some block → block ≠ "" →
      ∃ front assembled back,
        (∀ transformer, (declaration.withTransformer transformer).render =
          front ++ transformer.apply assembled ++ back) ∧
        (let after :=
          if declaration.kind = some .scalar then declaration.wrapper
          else declaration.wrapper ++ "\n" ++ selfReference declaration.fullName
        assembled = ":" ++ declaration.wrapper ++ "\n" ++ block ++
          if after = "" then "" else "\n" ++ after) ∧
        front = declaration.comment.getD "" ++ declaration.decoratorLine ++ declaration.header ++
          declaration.content.getD "" ++
          ((present declaration.method).map (· ++ "(")).getD "" ∧
        back = ((present declaration.method).map fun _ => ")").getD "" ++ "\n") ∧
      (present declaration.block = none → ∀ transformer other,
        (declaration.withTransformer transformer).render =
          (declaration.withTransformer other).render) := by
  refine ⟨fun block given filled => ?_, fun bare transformer other => ?_⟩
  · refine ⟨declaration.frontOfBlock, declaration.assembledBlock block, declaration.backOfBlock,
      render_withTransformer_of_block given filled, assembledBlock_eq filled, ?_, ?_⟩
    · -- The method is the only part that may be missing on either side.
      rw [frontOfBlock, lead, callOpening, getD_present]
      cases present declaration.method <;> rfl
    · rw [backOfBlock, callClosing]
      cases present declaration.method <;> rfl
  · rw [render_withTransformer_of_bare bare, render_withTransformer_of_bare bare]

/--
The block of a scalar inside a call is given without an alias; one that is empty is not given, so
the brackets around every block do not show.
-/
theorem transformer_is_given_block_of_scalar :
    let brackets : BlockTransformer := ⟨fun block => "<" ++ block ++ ">"⟩
    let time : Declaration :=
      { settings := { blockWrapper := " #" }, kind := some .scalar, name := "Time"
        content := some " = ", block := some "    pass", method := some "wrap" }
    let bare : Declaration := { kind := some .scalar, name := "Time", block := some "" }
    time.block = some "    pass" ∧ "    pass" ≠ "" ∧
      (time.withTransformer brackets).render =
        "class Time = wrap(" ++ brackets.apply ": #\n    pass\n #" ++ ")\n" ∧
      (time.withTransformer ⟨fun _ => ""⟩).render = "class Time = wrap(" ++ "" ++ ")\n" ∧
      present bare.block = none ∧
      (bare.withTransformer brackets).render = (bare.withTransformer .identity).render := by
  intro brackets time bare
  have filled : "    pass" ≠ "" := by decide
  have unfilled : present bare.block = none := by decide
  -- The block is given with its sign and its wrapper, but without an alias.
  obtain ⟨front, assembled, back, given, rfl, rfl, rfl⟩ :=
    (transformer_is_given_block time).1 "    pass" rfl filled
  exact ⟨rfl, filled, given brackets, given ⟨fun _ => ""⟩, unfilled,
    (transformer_is_given_block bare).2 unfilled brackets .identity⟩

end DeclGen.Declaration
