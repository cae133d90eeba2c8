import DeclGen.Member
import DeclGen.Proofs.Comment.Layout
import Mathlib.Data.List.Basic

/-!
The body of an enum class, line by line.

Each member has the lines of its comment and below them the line of its binding, all of them one
level deep. A body has the lines of its members in order, and text as soon as there is a member.
-/

namespace DeclGen.Member

/-- A member is never written as no text, since its binding has spaces in it. -/
theorem render_ne_empty (settings : Settings) (member : Member) : member.render settings ≠ "" := by
  intro empty
  have characters := congrArg String.toList empty
  simp [render, binding, Indent.indent] at characters

/-- A list that has members is never written as no text. -/
theorem renderAll_ne_empty (settings : Settings) {members : List Member} (filled : members ≠ []) :
    renderAll settings members ≠ "" := by
  obtain ⟨first, rest, rfl⟩ := List.exists_cons_of_ne_nil filled
  exact Text.joinLines_ne_empty (rest.map (render settings)) (render_ne_empty settings first)

/-- The lines of a member without their indentation: its comment, and below it the binding. -/
def layout (settings : Settings) (member : Member) : List String :=
  Text.closedLines (Comment.renderWith settings.indent 0 (.ofOption member.comment)) ++
    [member.binding settings]

/-- The count of lines that a comment takes. -/
def commentHeight : Option String → Nat
  | none => 0
  | some text =>
    if text = "" then 0
    -- A block has a delimiter above its lines and one below them.
    else if '\n' ∈ text.toList then (Text.lines text).length + 2
    else 1

/-- At level zero a comment has the lines of its layout. -/
theorem closedLines_zero (unit : Indent) (source : CommentSource) :
    Text.closedLines (Comment.renderWith unit 0 source) = source.text?.elim [] Comment.layout := by
  rw [(Comment.closedLines_renderWith unit 0 source).1, Comment.map_indent_zero]

/-- A comment has as many lines as its height says. -/
theorem length_closedLines_zero (unit : Indent) (comment : Option String) :
    (Text.closedLines (Comment.renderWith unit 0 (.ofOption comment))).length =
      commentHeight comment := by
  rw [closedLines_zero]
  cases comment with
  | none => rfl
  | some text =>
    by_cases empty : text = ""
    · simp [CommentSource.ofOption, CommentSource.text?, commentHeight, empty]
    · -- What is left are the two forms of a fragment.
      by_cases several : '\n' ∈ text.toList <;>
        simp [CommentSource.ofOption, CommentSource.text?, commentHeight, Comment.layout, empty,
          several]

/-- A member whose binding is one line has the lines of its layout, one level deep. -/
theorem lines_render {settings : Settings} {member : Member}
    (single : '\n' ∉ (member.binding settings).toList) :
    Text.lines (member.render settings) =
      (member.layout settings).map (settings.indent.indent 1) := by
  obtain ⟨closed, -⟩ :=
    Comment.closedLines_renderWith settings.indent 1 (.ofOption member.comment)
  have plain : ∀ line ∈ Text.closedLines
      (Comment.renderWith settings.indent 1 (.ofOption member.comment)), '\n' ∉ line.toList :=
    fun line listed => Text.newline_not_mem_of_mem_closedLines listed
  rw [closed] at plain
  -- The comment ends with a newline, so the binding starts a line of its own.
  rw [render, Comment.renderWith_eq_writeLines, Text.lines_writeLines_append plain,
    Text.lines_of_not_mem (Comment.newline_not_mem_indent single settings.indent 1), layout,
    closedLines_zero, List.map_append]
  rfl

/-- A binding is one line where its three parts have no newline. -/
theorem newline_not_mem_binding {settings : Settings} {member : Member}
    (separator : '\n' ∉ settings.memberSeparator.toList)
    (plain : '\n' ∉ member.name.toList ∧ '\n' ∉ member.value.toList) :
    '\n' ∉ (member.binding settings).toList := by
  simp [binding, separator, plain]

/-- The lines of a body are those of its members in order. -/
theorem lines_renderAll {settings : Settings} {members : List Member} (filled : members ≠ [])
    (single : ∀ member ∈ members, '\n' ∉ (member.binding settings).toList) :
    Text.lines (renderAll settings members) =
      (members.flatMap (layout settings)).map (settings.indent.indent 1) := by
  rw [renderAll, Text.lines_joinLines (by simpa using filled), List.flatMap_map, List.map_flatMap]
  exact List.flatMap_congr fun member listed => lines_render (single member listed)

/-- Two lists of members have their bodies one below the other. -/
theorem renderAll_append (settings : Settings) {front back : List Member} (first : front ≠ [])
    (second : back ≠ []) :
    renderAll settings (front ++ back) =
      renderAll settings front ++ "\n" ++ renderAll settings back := by
  obtain ⟨top, above, rfl⟩ := List.exists_cons_of_ne_nil first
  obtain ⟨next, below, rfl⟩ := List.exists_cons_of_ne_nil second
  simpa [renderAll] using Text.joinLines_append (top.render settings) (above.map (render settings))
    (next.render settings) (below.map (render settings))

/--
The lines of an enum body are those of its members, in order and each behind one unit.

A member has the lines that its comment has at level zero, and one line for its binding. A comment
has no line where it is absent or empty, one behind `# `, and two more than its text otherwise. So
no member is lost, moved or joined to another one. The bodies of two lists are parted by a newline,
and only the empty list has an empty body.
-/
theorem body_of_member_lines (settings : Settings) :
    (∀ members : List Member, members ≠ [] → '\n' ∉ settings.memberSeparator.toList →
      (∀ member ∈ members, '\n' ∉ member.name.toList ∧ '\n' ∉ member.value.toList) →
        Text.lines (renderAll settings members) =
            (members.flatMap (layout settings)).map (settings.indent.text ++ ·) ∧
          (Text.lines (renderAll settings members)).length =
            (members.map fun member => commentHeight member.comment + 1).sum) ∧
      (∀ comment : Option String,
        (Text.closedLines (Comment.renderWith settings.indent 0 (.ofOption comment))).length =
            commentHeight comment ∧
          Text.remainder (Comment.renderWith settings.indent 0 (.ofOption comment)) = "") ∧
      (∀ front back : List Member, front ≠ [] → back ≠ [] →
        renderAll settings (front ++ back) =
          renderAll settings front ++ "\n" ++ renderAll settings back) ∧
      ∀ members : List Member, renderAll settings members = "" ↔ members = [] := by
  refine ⟨fun members filled separator plain => ?_, fun comment => ?_,
    fun front back first second => renderAll_append settings first second, fun members => ?_⟩
  · have lines := lines_renderAll filled fun member listed =>
      newline_not_mem_binding separator (plain member listed)
    have level : settings.indent.indent 1 = (settings.indent.text ++ ·) := by
      funext line
      simp [Indent.indent, Indent.levels]
    rw [lines, level]
    refine ⟨rfl, ?_⟩
    -- The lines of the body are counted member by member, and those of a member by its comment.
    simp [List.length_flatMap, layout, length_closedLines_zero]
  · exact ⟨length_closedLines_zero settings.indent comment,
      (Comment.closedLines_renderWith settings.indent 0 (.ofOption comment)).2⟩
  · constructor
    · intro empty
      -- A body with members has a line for each of them, and so it is not empty.
      by_contra filled
      exact renderAll_ne_empty settings filled empty
    · rintro rfl
      rfl

/--
A member with a comment of two lines and one without a comment make six lines, one of which is moved
although it is empty; a third member comes behind a newline.
-/
theorem body_of_member_lines_of_three :
    let settings : Settings := { indent := .tab, memberSeparator := ":" }
    let front : List Member := [⟨"A", "1", some "a\n"⟩, ⟨"B", "2", some ""⟩]
    let back : List Member := [⟨"C", "\n", none⟩]
    front ≠ [] ∧ back ≠ [] ∧ '\n' ∉ settings.memberSeparator.toList ∧
      (∀ member ∈ front, '\n' ∉ member.name.toList ∧ '\n' ∉ member.value.toList) ∧
      Text.lines (renderAll settings front) =
        ["\"\"\"", "a", "", "\"\"\"", "A : 1", "B : 2"].map ("\t" ++ ·) ∧
      (Text.lines (renderAll settings front)).length = 6 ∧
      renderAll settings (front ++ back) =
        renderAll settings front ++ "\n" ++ renderAll settings back := by
  intro settings front back
  obtain ⟨listed, -, parted, -⟩ := body_of_member_lines settings
  have separator : '\n' ∉ settings.memberSeparator.toList := by decide
  have plain : ∀ member ∈ front, '\n' ∉ member.name.toList ∧ '\n' ∉ member.value.toList := by
    decide
  obtain ⟨lines, count⟩ := listed front (by simp [front]) separator plain
  -- A comment that ends with a newline has an empty last line, and an empty one takes no line.
  have layouts : front.flatMap (layout settings) =
      ["\"\"\"", "a", "", "\"\"\"", "A : 1", "B : 2"] := by decide +kernel
  have height : (front.map fun member => commentHeight member.comment + 1).sum = 6 := by
    decide +kernel
  rw [layouts] at lines
  exact ⟨by simp [front], by simp [back], separator, plain, lines, count.trans height,
    parted front back (by simp [front]) (by simp [back])⟩

end DeclGen.Member
