import DeclGen.Declaration.Render
import DeclGen.Proofs.Text.Lines

/-!
What a declaration is put together from.

A body is a block with the call around it, inline content, or nothing. The alias stands behind a
block unless the declaration is a scalar, and always behind inline content.
-/

namespace DeclGen

/-- An empty text and none are written alike. -/
theorem getD_present (text : Option String) : (present text).getD "" = text.getD "" := by
  cases text with
  | none => rfl
  | some given => by_cases empty : given = "" <;> simp [present, Option.filter, empty]

namespace Declaration

variable {declaration : Declaration}

/-- The texts that a declaration is put together from. -/
def texts (declaration : Declaration) : List String :=
  [declaration.name, declaration.settings.blockWrapper] ++
    [declaration.generics, declaration.decorator, declaration.content, declaration.block,
      declaration.method, declaration.comment].flatMap Option.toList

/-- A text that is present is given. -/
theorem eq_some_of_present {text : Option String} {given : String}
    (shown : present text = some given) : text = some given :=
  (Option.filter_eq_some_iff.mp shown).1

/-- A text that is present is not empty. -/
theorem ne_empty_of_present {text : Option String} {given : String}
    (shown : present text = some given) : given ≠ "" := by
  simpa using (Option.filter_eq_some_iff.mp shown).2

/-- What stands above the line of the name. -/
def lead (declaration : Declaration) : String :=
  declaration.comment.getD "" ++ declaration.decoratorLine

/-- A comment stands in front of the declaration that it is attached to. -/
theorem render_withComment {source : CommentSource} {text : String}
    (given : source.text? = some text) :
    (declaration.withComment source).render =
      Comment.fragment declaration.settings.indent 0 text ++
        ({ declaration with comment := none } : Declaration).render := by
  -- The comment is the first part of the text, and none of the others depends on it.
  have parts : ∀ comment : Option String, ({ declaration with comment } : Declaration).render =
      comment.getD "" ++ declaration.decoratorLine ++ declaration.header ++ declaration.body ++
        "\n" := fun _ => rfl
  have attached : declaration.withComment source =
      { declaration with
        comment := some (Comment.fragment declaration.settings.indent 0 text) } := by
    simp [withComment, given]
  rw [attached, parts, parts, Option.getD_some, Option.getD_none, String.empty_append]
  simp only [String.append_assoc]

/-- What stands in front of an assembled block: the method and a parenthesis, if there is one. -/
def callOpening (declaration : Declaration) : String :=
  match present declaration.method with
  | some method => method ++ "("
  | none => ""

/-- What stands behind an assembled block. -/
def callClosing (declaration : Declaration) : String :=
  if present declaration.method = none then "" else ")"

/-- The transformed block stands between the two parts of the call. -/
theorem blockBody_eq_call (declaration : Declaration) (block : String) :
    declaration.blockBody block =
      declaration.callOpening ++
        declaration.settings.transformer.apply (declaration.assembledBlock block) ++
        declaration.callClosing := by
  unfold blockBody callOpening callClosing
  -- A method is written in front of the parenthesis, and without one there is none.
  cases present declaration.method <;> simp

/-- The colon, and the block below it. -/
def openedBlock (declaration : Declaration) (block : String) : String :=
  ":" ++ declaration.wrapper ++ "\n" ++ block

/-- Behind a block stands the wrapper, and below it the alias. -/
theorem assembledBlock_of_alias (aliased : declaration.kind ≠ some .scalar) {block : String}
    (filled : block ≠ "") :
    declaration.assembledBlock block =
      declaration.openedBlock block ++ "\n" ++ declaration.wrapper ++ "\n" ++
        selfReference declaration.fullName := by
  have after : declaration.afterBlock =
      declaration.wrapper ++ "\n" ++ selfReference declaration.fullName := if_neg aliased
  -- None of the three parts is empty, so each of them has lines of its own.
  have kept : [":" ++ declaration.wrapper, block, declaration.afterBlock].filter (· ≠ "") =
      [":" ++ declaration.wrapper, block, declaration.afterBlock] := by simp [after, filled]
  rw [assembledBlock, kept, after, Text.joinLines_cons_cons, Text.joinLines_cons_cons,
    Text.joinLines_singleton, openedBlock]
  simp only [String.append_assoc]

/-- Behind the block of a scalar stands the wrapper, and no empty line where there is none. -/
theorem assembledBlock_of_scalar (scalar : declaration.kind = some .scalar) {block : String}
    (filled : block ≠ "") :
    declaration.assembledBlock block =
      declaration.openedBlock block ++
        if declaration.wrapper = "" then "" else "\n" ++ declaration.wrapper := by
  have after : declaration.afterBlock = declaration.wrapper := if_pos scalar
  -- The wrapper alone is behind the block, so what is joined depends on whether it is empty.
  by_cases bare : declaration.wrapper = ""
  · -- The third part is empty, as it can be for a scalar only.
    have kept : [":" ++ declaration.wrapper, block, declaration.afterBlock].filter (· ≠ "") =
        [":" ++ declaration.wrapper, block] := by simp [after, filled, bare]
    rw [assembledBlock, kept, Text.joinLines_cons_cons, Text.joinLines_singleton, openedBlock,
      if_pos bare, String.append_empty]
  · have kept : [":" ++ declaration.wrapper, block, declaration.afterBlock].filter (· ≠ "") =
        [":" ++ declaration.wrapper, block, declaration.wrapper] := by simp [after, filled, bare]
    rw [assembledBlock, kept, Text.joinLines_cons_cons, Text.joinLines_cons_cons,
      Text.joinLines_singleton, openedBlock, if_neg bare]
    simp only [String.append_assoc]

/-- A block that has text decides the body, and inline content only precedes it. -/
theorem body_of_block {block : String} (given : declaration.block = some block)
    (filled : block ≠ "") :
    declaration.body =
      (present declaration.content).getD "" ++ declaration.blockBody block := by
  -- A block that has text is present, so the body is not looked for in the content.
  have shown : present declaration.block = some block := by simp [present, given, filled]
  simp [body, shown]

/-- Without a block the content is written on the line of the name. -/
theorem body_of_content {content : String} (bare : present declaration.block = none)
    (given : present declaration.content = some content) :
    declaration.body = declaration.inlineBody content := by
  simp [body, bare, given]

/-- Without a block and content there is no body. -/
theorem body_of_nothing (bare : present declaration.block = none)
    (absent : present declaration.content = none) : declaration.body = "" := by
  simp [body, bare, absent]

end Declaration

end DeclGen
