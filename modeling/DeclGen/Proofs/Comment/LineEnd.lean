import DeclGen.Member
import DeclGen.Proofs.Comment.Layout
import DeclGen.Proofs.Declaration.Body
import DeclGen.Proofs.Text.PhysicalLines

/-!
When a comment behind `# ` stays on one line of Python source.

The text of such a comment has no newline. Python ends a line at CR as well, and what stands behind
a CR is no comment any more, so such a comment is one line exactly if its text has no CR.
-/

namespace DeclGen.Comment

/-- The line of a comment that has one, without its newline. -/
def commentLine (unit : Indent) (level : Nat) (text : String) : String :=
  unit.indent level ("# " ++ escapedLine text)

variable {text : String}

/-- The fragment of a text without a newline is its line. -/
theorem fragment_eq_commentLine (single : '\n' ∉ text.toList) (unit : Indent) (level : Nat) :
    fragment unit level text = commentLine unit level text ++ "\n" := by
  rw [fragment_of_not_mem single]
  simp [commentLine, escapedLine, Indent.indent, String.append_assoc]

/-- A comment behind `# ` has no newline if its text has none. -/
theorem newline_not_mem_commentLine (single : '\n' ∉ text.toList) (unit : Indent) (level : Nat) :
    '\n' ∉ (commentLine unit level text).toList := by
  refine newline_not_mem_indent ?_ unit level
  simpa [escapedLine, newline_mem_escape] using single

/-- A comment line has the CRs of its text. -/
theorem carriageReturn_mem_commentLine_iff (unit : Indent) (level : Nat) :
    '\r' ∈ (commentLine unit level text).toList ↔ '\r' ∈ text.toList := by
  rw [commentLine, mem_indent_iff (by decide) (by decide)]
  simp [escapedLine, mem_escape_iff (show '\r' ≠ '\\' by decide)]

/-- A comment line in front of other text ends where the other text begins, if it has no CR. -/
theorem physicalLines_fragment_append_iff (single : '\n' ∉ text.toList) (unit : Indent)
    (level : Nat) (rest : String) :
    Text.physicalLines (fragment unit level text ++ rest) =
        commentLine unit level text :: Text.physicalLines rest ↔
      '\r' ∉ text.toList := by
  rw [fragment_eq_commentLine single,
    Text.physicalLines_append_newline_iff (newline_not_mem_commentLine single unit level),
    carriageReturn_mem_commentLine_iff]

/--
A comment behind `# ` is one line of Python source exactly if its text has no CR.

The same holds for the comment line of an enum member and for the one above a declaration: what
stands below it starts on a line of its own, and no part of the comment is among the lines of code.
-/
theorem line_comment_is_one_line_iff (filled : text ≠ "") (single : '\n' ∉ text.toList) :
    (∀ (source : CommentSource) (unit : Indent) (level : Nat), source.text? = some text →
      (Text.IsPhysicalLine (renderWith unit level source) ↔ '\r' ∉ text.toList)) ∧
      (∀ (settings : Settings) (member : Member), member.comment = some text →
        (Text.physicalLines (member.render settings) =
            commentLine settings.indent 1 text ::
              Text.physicalLines (settings.indent.indent 1 (member.binding settings)) ↔
          '\r' ∉ text.toList)) ∧
      ∀ (source : CommentSource) (declaration : Declaration), source.text? = some text →
        (Text.physicalLines (declaration.withComment source).render =
            commentLine declaration.settings.indent 0 text ::
              Text.physicalLines ({ declaration with comment := none } : Declaration).render ↔
          '\r' ∉ text.toList) := by
  refine ⟨fun source unit level given => ?_, fun settings member given => ?_,
    fun source declaration given => ?_⟩
  · have rendered : renderWith unit level source = commentLine unit level text ++ "\n" := by
      simp [renderWith, given, fragment_eq_commentLine single]
    rw [rendered,
      Text.isPhysicalLine_append_newline_iff (newline_not_mem_commentLine single unit level),
      carriageReturn_mem_commentLine_iff]
  · -- Behind its comment a member has its binding.
    have rendered : member.render settings =
        fragment settings.indent 1 text ++ settings.indent.indent 1 (member.binding settings) := by
      simp [Member.render, renderWith, CommentSource.ofOption, CommentSource.text?, given, filled]
    rw [rendered]
    exact physicalLines_fragment_append_iff single settings.indent 1 _
  · rw [Declaration.render_withComment given]
    exact physicalLines_fragment_append_iff single declaration.settings.indent 0 _

/-- A comment without a CR is one line above a member, above a declaration and alone. -/
theorem line_comment_is_one_line_of_terminator :
    let member : Member := ⟨"A", "1", some "a */ b"⟩
    let source : CommentSource := .node ⟨"a */ b", true⟩
    "a */ b" ≠ "" ∧ '\n' ∉ "a */ b".toList ∧ '\r' ∉ "a */ b".toList ∧
      source.text? = some "a */ b" ∧ member.comment = some "a */ b" ∧
      Text.IsPhysicalLine (renderWith .tab 2 source) ∧
      Text.physicalLines (member.render {}) =
        commentLine .python 1 "a */ b" :: Text.physicalLines "    A = 1" ∧
      Text.physicalLines (({ name := "A" } : Declaration).withComment source).render =
        commentLine .python 0 "a */ b" ::
          Text.physicalLines ({ name := "A" } : Declaration).render := by
  intro member source
  -- A terminator is escaped in a comment of any form, and no CR comes of that.
  have filled : "a */ b" ≠ "" := by decide
  have single : '\n' ∉ "a */ b".toList := by decide
  have plain : '\r' ∉ "a */ b".toList := by decide
  have given : source.text? = some "a */ b" := by simp [source, CommentSource.text?]
  obtain ⟨alone, aboveMember, aboveDeclaration⟩ := line_comment_is_one_line_iff filled single
  exact ⟨filled, single, plain, given, rfl, (alone source .tab 2 given).mpr plain,
    (aboveMember {} member rfl).mpr plain, (aboveDeclaration source _ given).mpr plain⟩

/-- What stands behind a CR in a comment text is a line of code, in all three places. -/
theorem carriage_return_ends_comment_early :
    let source : CommentSource := .text "a\rimport os"
    '\n' ∉ "a\rimport os".toList ∧
      renderWith .python 0 source = "# a\rimport os\n" ∧
      ¬ Text.IsPhysicalLine (renderWith .python 0 source) ∧
      Text.physicalLines (renderWith .python 0 source) = ["# a", "import os", ""] ∧
      Text.physicalLines (Member.render {} ⟨"A", "1", some "a\rimport os"⟩) =
        ["    # a", "import os", "    A = 1"] ∧
      Text.physicalLines (({ name := "A" } : Declaration).withComment source).render =
        ["# a", "import os", "A", ""] := by
  intro source
  have rendered : renderWith .python 0 source = "# a\rimport os" ++ "\n" := by decide +kernel
  refine ⟨by decide, by decide +kernel, ?_, by decide +kernel, by decide +kernel,
    by decide +kernel⟩
  -- The CR inside ends the line before its newline does.
  rw [rendered, Text.isPhysicalLine_append_newline_iff (by decide)]
  decide

end DeclGen.Comment
