import DeclGen.Proofs.Text.Lines

/-! The lines of a text that end with a newline, and the margin that may stand in front of them. -/

namespace DeclGen.Text

/-- Writes lines, each with a newline of its own. -/
def writeLines : List String → String
  | [] => ""
  | line :: rest => line ++ "\n" ++ writeLines rest

/-- The lines of a text that a newline ends. -/
def closedLines (text : String) : List String :=
  (lines text).dropLast

/-- What stands behind the last newline of a text. -/
def remainder (text : String) : String :=
  (lines text).getLastD ""

/-- Puts a margin in front of every line that a newline ends, be the line empty or not. -/
def indentLines (margin text : String) : String :=
  writeLines ((closedLines text).map (margin ++ ·)) ++ remainder text

/-- The last line of a text is the one that no newline ends. -/
theorem lines_eq_closedLines (text : String) :
    lines text = closedLines text ++ [remainder text] := by
  -- There is a last line, since even the empty text has one.
  obtain ⟨part, parts, cut⟩ := exists_split_cons '\n' text.toList
  have filled : lines text ≠ [] := by simp [lines, cut]
  have last : remainder text = (lines text).getLast filled := by
    simp [remainder, List.getLastD_eq_getLast?, List.getLast?_eq_some_getLast filled]
  rw [closedLines, last, List.dropLast_concat_getLast]

/-- Only the last of joined lines has no newline behind it. -/
theorem joinLines_concat (parts : List String) (last : String) :
    joinLines (parts ++ [last]) = writeLines parts ++ last := by
  induction parts with
  | nil => simp [writeLines]
  | cons first parts ih =>
    -- A line follows the first one in any case, so a newline stands between the two.
    obtain ⟨next, others, listed⟩ := List.exists_cons_of_ne_nil (l := parts ++ [last]) (by simp)
    rw [List.cons_append, listed, joinLines_cons_cons, ← listed, ih, writeLines]
    simp only [String.append_assoc]

/-- Closed lines and the remainder are the whole text. -/
theorem writeLines_closedLines (text : String) :
    writeLines (closedLines text) ++ remainder text = text := by
  rw [← joinLines_concat, ← lines_eq_closedLines, joinLines_lines]

/-- A text that ends with a newline is its closed lines. -/
theorem writeLines_closedLines_of_ended {text : String} (ended : remainder text = "") :
    writeLines (closedLines text) = text := by
  have whole := writeLines_closedLines text
  rwa [ended, String.append_empty] at whole

/-- Lines that are written in front of a text are lines of the whole. -/
theorem lines_writeLines_append {parts : List String} (single : ∀ part ∈ parts, '\n' ∉ part.toList)
    (rest : String) : lines (writeLines parts ++ rest) = parts ++ lines rest := by
  -- The newline behind each line parts it from everything that follows.
  induction parts with
  | nil => simp [writeLines]
  | cons first parts ih =>
    have others : ∀ part ∈ parts, '\n' ∉ part.toList := fun part member =>
      single part (by simp [member])
    rw [writeLines, String.append_assoc, lines_append_newline,
      lines_of_not_mem (single first (by simp)), ih others]
    rfl

/-- A line that a newline ends has none of its own. -/
theorem newline_not_mem_of_mem_closedLines {text line : String} (member : line ∈ closedLines text) :
    '\n' ∉ line.toList :=
  newline_not_mem_of_mem_lines (List.dropLast_subset _ member)

end DeclGen.Text
