import DeclGen.Proofs.Comment.Escape

/-! The two forms of a comment fragment: a line behind `# `, or a block between delimiter lines. -/

namespace DeclGen.Comment

/-- The lines of a comment text after the escape. -/
def escapedLines (text : String) : List String :=
  Text.lines (String.ofList (escape text.toList))

/-- The line that opens or closes a block, at a level and with its newline. -/
def delimiterLine (unit : Indent) (level : Nat) : String :=
  unit.indent level (delimiter ++ "\n")

/-- A text without a newline has one escaped line. -/
theorem escapedLines_of_not_mem {text : String} (single : '\n' ∉ text.toList) :
    escapedLines text = [String.ofList (escape text.toList)] := by
  have absent : '\n' ∉ escape text.toList := fun found => single ((newline_mem_escape _).mp found)
  simp [escapedLines, Text.lines, Text.split_of_not_mem absent]

/-- A text with a newline has at least two escaped lines. -/
theorem exists_escapedLines_of_mem {text : String} (several : '\n' ∈ text.toList) :
    ∃ first second rest, escapedLines text = first :: second :: rest := by
  obtain ⟨first, second, rest, cut⟩ :=
    Text.exists_split_of_mem ((newline_mem_escape text.toList).mpr several)
  refine ⟨String.ofList first, String.ofList second, rest.map String.ofList, ?_⟩
  simp only [escapedLines, Text.lines, String.toList_ofList, cut, List.map_cons]

/-- A text without a newline is written behind `# `. -/
theorem fragment_of_not_mem {text : String} (single : '\n' ∉ text.toList) (unit : Indent)
    (level : Nat) :
    fragment unit level text =
      unit.indent level ("# " ++ String.ofList (escape text.toList) ++ "\n") := by
  have lines := escapedLines_of_not_mem single
  rw [escapedLines] at lines
  simp [fragment, lines]

/-- A text with a newline is written as a block. -/
theorem fragment_of_mem {text : String} (several : '\n' ∈ text.toList) (unit : Indent)
    (level : Nat) :
    fragment unit level text =
      Text.joinLines ((blockLines (escapedLines text)).map (unit.indent level)) := by
  obtain ⟨first, second, rest, lines⟩ := exists_escapedLines_of_mem several
  rw [lines]
  rw [escapedLines] at lines
  simp [fragment, lines]

/-- The lines of a comment text, each behind its indentation and with its newline. -/
def blockBody (unit : Indent) (level : Nat) (text : String) : String :=
  Text.joinLines ((escapedLines text).map (unit.indent level)) ++ "\n"

/-- Between its two delimiter lines a block has the lines of its text. -/
theorem fragment_eq_block {text : String} (several : '\n' ∈ text.toList) (unit : Indent)
    (level : Nat) :
    fragment unit level text =
      delimiterLine unit level ++ blockBody unit level text ++ delimiterLine unit level := by
  obtain ⟨first, second, rest, lines⟩ := exists_escapedLines_of_mem several
  rw [fragment_of_mem several, blockBody, delimiterLine, lines, blockLines]
  simp only [List.map_append, List.map_cons, List.map_nil]
  -- The closing delimiter is the last of the joined lines, so a newline stands in front of it.
  rw [Text.joinLines_append, Text.joinLines_singleton, Text.joinLines_cons_cons]
  simp [Indent.indent, String.append_assoc]

/-- Indentation consists of spaces and tabs. -/
theorem mem_levels {unit : Indent} {level : Nat} {c : Char}
    (member : c ∈ (unit.levels level).toList) : c = ' ' ∨ c = '\t' := by
  induction level with
  | zero => simp [Indent.levels] at member
  | succ level ih =>
    simp only [Indent.levels, String.toList_append, List.mem_append] at member
    rcases member with member | member
    · -- Each unit is a text of one kind of blank.
      cases unit with
      | tab => right; simpa [Indent.text] using member
      | spaces width =>
        left
        simp only [Indent.text] at member
        split at member
        · simpa using member
        · split at member <;> simpa using member
    · exact ih member

/-- Indentation is foreign to a pattern without blanks. -/
theorem not_mem_of_mem_levels {pattern : List Char} (space : ' ' ∉ pattern) (tab : '\t' ∉ pattern)
    (unit : Indent) (level : Nat) : ∀ c ∈ (unit.levels level).toList, c ∉ pattern := by
  intro c member
  rcases mem_levels member with rfl | rfl
  · exact space
  · exact tab

/-- A character that is no blank stands in an indented line only where it stands in the line. -/
theorem mem_indent_iff {c : Char} (space : c ≠ ' ') (tab : c ≠ '\t') (unit : Indent) (level : Nat)
    (line : String) : c ∈ (unit.indent level line).toList ↔ c ∈ line.toList := by
  -- What indents is made of blanks and tabs only.
  have absent : c ∉ (unit.levels level).toList := by
    intro member
    rcases mem_levels member with same | same
    · exact space same
    · exact tab same
  simp [Indent.indent, absent]

/-- Indentation brings no newline into a line. -/
theorem newline_not_mem_indent {line : String} (single : '\n' ∉ line.toList) (unit : Indent)
    (level : Nat) : '\n' ∉ (unit.indent level line).toList := by
  rwa [mem_indent_iff (by decide) (by decide)]

/-- A line of a comment text after the escape. -/
def escapedLine (line : String) : String :=
  String.ofList (escape line.toList)

/-- Each line of a comment text is escaped on its own. -/
theorem escapedLines_eq (text : String) :
    escapedLines text = (Text.lines text).map escapedLine := by
  simp [escapedLines, escapedLine, Text.lines, split_escape]

/-- A one-line fragment is one line, and nothing follows its newline. -/
theorem lines_fragment_of_not_mem {text : String} (single : '\n' ∉ text.toList) (unit : Indent)
    (level : Nat) :
    Text.lines (fragment unit level text) =
      [unit.indent level ("# " ++ escapedLine text), ""] := by
  -- The escape brings no newline in, so there is one line and what is behind it.
  have absent : '\n' ∉ ("# " ++ escapedLine text).toList := by
    simpa [escapedLine, newline_mem_escape] using single
  have whole : fragment unit level text =
      unit.indent level ("# " ++ escapedLine text) ++ "\n" ++ "" := by
    simp [fragment_of_not_mem single, Indent.indent, escapedLine, String.append_assoc]
  rw [whole, Text.lines_append_newline,
    Text.lines_of_not_mem (newline_not_mem_indent absent unit level)]
  rfl

/-- The lines of a block are those of its text, escaped and indented, between two delimiters. -/
theorem lines_fragment_of_mem {text : String} (several : '\n' ∈ text.toList) (unit : Indent)
    (level : Nat) :
    Text.lines (fragment unit level text) =
      unit.indent level delimiter ::
        (Text.lines text).map (fun line => unit.indent level (escapedLine line)) ++
        [unit.indent level delimiter, ""] := by
  -- Each of the three parts of a block ends with a newline of its own.
  have whole : fragment unit level text =
      unit.indent level delimiter ++ "\n" ++
        (Text.joinLines ((escapedLines text).map (unit.indent level)) ++ "\n" ++
          (unit.indent level delimiter ++ "\n" ++ "")) := by
    simp [fragment_eq_block several, delimiterLine, blockBody, Indent.indent, String.append_assoc]
  have border : Text.lines (unit.indent level delimiter) = [unit.indent level delimiter] :=
    Text.lines_of_not_mem (newline_not_mem_indent (by decide) unit level)
  -- Neither the escape nor the indentation brings another newline in.
  have inner : Text.lines (Text.joinLines ((escapedLines text).map (unit.indent level))) =
      (escapedLines text).map (unit.indent level) := by
    obtain ⟨first, second, rest, listed⟩ := exists_escapedLines_of_mem several
    refine Text.lines_joinLines_of_single (by simp [listed]) fun part member => ?_
    obtain ⟨line, source, rfl⟩ := List.mem_map.mp member
    exact newline_not_mem_indent (Text.newline_not_mem_of_mem_lines source) unit level
  rw [whole, Text.lines_append_newline, Text.lines_append_newline, Text.lines_append_newline,
    border, inner, escapedLines_eq, List.map_map]
  rfl

end DeclGen.Comment
