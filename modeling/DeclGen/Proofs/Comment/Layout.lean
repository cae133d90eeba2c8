import DeclGen.Proofs.Comment.Fragment
import DeclGen.Proofs.Text.ClosedLines

/-!
The lines of a comment fragment, and how they move with the level.

A fragment consists of lines that each end with a newline. Which lines they are is decided by the
text alone, and a level puts its indentation in front of every one of them.
-/

namespace DeclGen.Comment

/-- The lines of a comment text in its fragment, without the indentation. -/
def layout (text : String) : List String :=
  if '\n' ∈ text.toList then delimiter :: (Text.lines text).map escapedLine ++ [delimiter]
  else ["# " ++ escapedLine text]

/-- Further levels stand in front of those that a line has. -/
theorem indent_add (unit : Indent) (level further : Nat) (line : String) :
    unit.indent (level + further) line = unit.levels further ++ unit.indent level line := by
  -- The induction is on the further levels, as each of them adds its unit in front.
  induction further with
  | zero => simp [Indent.levels]
  | succ further ih =>
    rw [Indent.indent] at ih ⊢
    rw [← Nat.add_assoc, Indent.levels, String.append_assoc, ih, Indent.levels,
      String.append_assoc]

/-- No level leaves a line where it is. -/
theorem indent_zero (unit : Indent) (line : String) : unit.indent 0 line = line := by
  simp [Indent.indent, Indent.levels]

/-- At the outermost level all lines stay as they are. -/
theorem map_indent_zero (unit : Indent) (lines : List String) :
    lines.map (unit.indent 0) = lines :=
  List.map_id'' (indent_zero unit) lines

/-- A fragment has the lines of its layout, and behind the last of them it ends. -/
theorem lines_fragment (unit : Indent) (level : Nat) (text : String) :
    Text.lines (fragment unit level text) = (layout text).map (unit.indent level) ++ [""] := by
  -- The newlines of the text decide the form on both sides.
  by_cases several : '\n' ∈ text.toList
  · rw [lines_fragment_of_mem several, layout, if_pos several]
    simp [Function.comp_def]
  · rw [lines_fragment_of_not_mem several, layout, if_neg several]
    rfl

/-- Every line of a fragment has a newline behind it. -/
theorem closedLines_fragment (unit : Indent) (level : Nat) (text : String) :
    Text.closedLines (fragment unit level text) = (layout text).map (unit.indent level) ∧
      Text.remainder (fragment unit level text) = "" := by
  simp [Text.closedLines, Text.remainder, lines_fragment]

/-- A fragment is its layout, each line behind the indentation and with its newline. -/
theorem fragment_eq_writeLines (unit : Indent) (level : Nat) (text : String) :
    fragment unit level text = Text.writeLines ((layout text).map (unit.indent level)) := by
  obtain ⟨closed, ended⟩ := closedLines_fragment unit level text
  rw [← closed, Text.writeLines_closedLines_of_ended ended]

/-- Further levels put their indentation in front of every line of a fragment. -/
theorem fragment_add (unit : Indent) (level further : Nat) (text : String) :
    fragment unit (level + further) text =
      Text.indentLines (unit.levels further) (fragment unit level text) := by
  obtain ⟨closed, ended⟩ := closedLines_fragment unit level text
  -- Every line of the layout moves by itself, the empty ones and the delimiters included.
  have moved : (layout text).map (unit.indent (level + further)) =
      ((layout text).map (unit.indent level)).map (unit.levels further ++ ·) := by
    rw [List.map_map]
    exact List.map_congr_left fun line _ => indent_add unit level further line
  rw [Text.indentLines, closed, ended, String.append_empty, fragment_eq_writeLines, moved]

/-- The lines of a comment are those of its layout; an absent or empty one has none. -/
theorem closedLines_renderWith (unit : Indent) (level : Nat) (source : CommentSource) :
    Text.closedLines (renderWith unit level source) =
        (source.text?.elim [] layout).map (unit.indent level) ∧
      Text.remainder (renderWith unit level source) = "" := by
  rw [renderWith]
  cases source.text? with
  | none => exact ⟨rfl, rfl⟩
  | some text => exact closedLines_fragment unit level text

/-- A comment is written as its lines, one behind the other. -/
theorem renderWith_eq_writeLines (unit : Indent) (level : Nat) (source : CommentSource) :
    renderWith unit level source =
      Text.writeLines ((source.text?.elim [] layout).map (unit.indent level)) := by
  obtain ⟨closed, ended⟩ := closedLines_renderWith unit level source
  rw [← closed, Text.writeLines_closedLines_of_ended ended]

/--
The level of a comment moves every line of its fragment, and the text alone decides the lines.

Each line ends with a newline, and none follows the last one. A text without a newline makes one
line behind `# `; any other makes as many lines as it has, and a delimiter above and below them.
The escape may come before the text is cut into lines or after it.
-/
theorem layout_of_fragment {source : CommentSource} {text : String}
    (given : source.text? = some text) (unit : Indent) :
    (∀ level, renderWith unit level source =
        Text.indentLines (unit.levels level) (renderWith unit 0 source) ∧
      Text.remainder (renderWith unit level source) = "") ∧
      ('\n' ∉ text.toList →
        renderWith unit 0 source = "# " ++ escapedLine text ++ "\n" ∧
          Text.closedLines (renderWith unit 0 source) = ["# " ++ escapedLine text]) ∧
      ('\n' ∈ text.toList →
        renderWith unit 0 source =
            Text.writeLines (delimiter :: (Text.lines text).map escapedLine ++ [delimiter]) ∧
          (Text.closedLines (renderWith unit 0 source)).length = (Text.lines text).length + 2) ∧
      Text.lines (escapedLine text) = (Text.lines text).map escapedLine ∧
      ∀ level further, renderWith unit (level + further) source =
        Text.indentLines (unit.levels further) (renderWith unit level source) := by
  have rendered : ∀ level, renderWith unit level source = fragment unit level text := by
    intro level
    simp [renderWith, given]
  -- At level zero nothing stands in front of the layout, so its two forms are the fragment's.
  have closed : Text.closedLines (fragment unit 0 text) = layout text := by
    rw [(closedLines_fragment unit 0 text).1, map_indent_zero]
  have written : fragment unit 0 text = Text.writeLines (layout text) := by
    rw [fragment_eq_writeLines, map_indent_zero]
  simp only [rendered]
  refine ⟨fun level => ⟨?_, (closedLines_fragment unit level text).2⟩, fun single => ?_,
    fun several => ?_, escapedLines_eq text,
    fun level further => fragment_add unit level further text⟩
  · -- The levels are all further ones where none stands in front yet.
    simpa using fragment_add unit 0 level text
  · have line : layout text = ["# " ++ escapedLine text] := if_neg single
    rw [closed, written, line]
    simp [Text.writeLines]
  · have block : layout text = delimiter :: (Text.lines text).map escapedLine ++ [delimiter] :=
      if_pos several
    rw [closed, written, block]
    simp

/--
A block with an empty line moves as a whole, and so that line moves, too; a terminator alone makes a
line.
-/
theorem layout_of_fragment_of_empty_line :
    let block : CommentSource := .text "a */\n\nb"
    let line : CommentSource := .node ⟨"*/", true⟩
    block.text? = some "a */\n\nb" ∧ '\n' ∈ "a */\n\nb".toList ∧
      renderWith .tab 0 block = Text.writeLines ["\"\"\"", "a *\\/", "", "b", "\"\"\""] ∧
      renderWith .tab 2 block = Text.indentLines "\t\t" (renderWith .tab 0 block) ∧
      line.text? = some "*/" ∧ '\n' ∉ "*/".toList ∧ renderWith .tab 0 line = "# *\\/\n" := by
  intro block line
  have several : '\n' ∈ "a */\n\nb".toList := by decide
  have single : '\n' ∉ "*/".toList := by decide
  have blockGiven : block.text? = some "a */\n\nb" := by simp [block, CommentSource.text?]
  have lineGiven : line.text? = some "*/" := by simp [line, CommentSource.text?]
  obtain ⟨moved, -, written, -⟩ := layout_of_fragment blockGiven .tab
  obtain ⟨-, one, -⟩ := layout_of_fragment lineGiven .tab
  -- The empty line is kept, and the terminator is escaped.
  have lines : delimiter :: (Text.lines "a */\n\nb").map escapedLine ++ [delimiter] =
      ["\"\"\"", "a *\\/", "", "b", "\"\"\""] := by decide +kernel
  exact ⟨blockGiven, several, lines ▸ (written several).1, (moved 2).1, lineGiven, single,
    (one single).1⟩

end DeclGen.Comment
