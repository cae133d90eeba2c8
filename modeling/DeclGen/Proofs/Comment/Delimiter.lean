import DeclGen.Proofs.Comment.Fragment

/-!
Where a comment block holds its own delimiter: in its first line, in its last one, and once more for
every delimiter in the comment text, which the escape leaves as it is.
-/

namespace DeclGen.Comment

/-- Indentation adds no delimiter to a line. -/
theorem occurrences_indent (unit : Indent) (level : Nat) (line : String) :
    Text.occurrences delimiter.toList (unit.indent level line).toList =
      Text.occurrences delimiter.toList line.toList := by
  have blank := not_mem_of_mem_levels (show ' ' ∉ delimiter.toList by decide) (by decide) unit level
  simpa [Indent.indent] using
    Text.occurrences_append_of_foreign (by decide) blank line.toList

/-- The escaped lines hold as many delimiters together as the comment text. -/
theorem sum_occurrences_escapedLines (text : String) :
    ((escapedLines text).map fun line => Text.occurrences delimiter.toList line.toList).sum =
      Text.occurrences delimiter.toList text.toList := by
  -- The delimiter spans no newline and has none of the characters of the escape.
  rw [escapedLines, Text.sum_occurrences_lines (by decide) (by decide), String.toList_ofList,
    occurrences_escape (by decide) (by decide) (by decide) (by decide)]

/-- The lines of a block hold as many delimiters as its text, whatever follows them. -/
theorem occurrences_blockBody_append (unit : Indent) (level : Nat) (text : String)
    (rest : List Char) :
    Text.occurrences delimiter.toList ((blockBody unit level text).toList ++ rest) =
      Text.occurrences delimiter.toList text.toList +
        Text.occurrences delimiter.toList rest := by
  -- The newline behind the last line divides what is counted.
  have newline := Text.occurrences_append_cons (show '\n' ∉ delimiter.toList by decide) (by decide)
    (Text.joinLines ((escapedLines text).map (unit.indent level))).toList rest
  rw [Text.occurrences_joinLines (by decide) (by decide), List.map_map] at newline
  simp only [Function.comp_def, occurrences_indent, sum_occurrences_escapedLines] at newline
  simpa [blockBody] using newline

/-- A delimiter line holds one delimiter, whatever follows it. -/
theorem occurrences_delimiterLine_append (unit : Indent) (level : Nat) (rest : List Char) :
    Text.occurrences delimiter.toList ((delimiterLine unit level).toList ++ rest) =
      1 + Text.occurrences delimiter.toList rest := by
  have indented := occurrences_indent unit level delimiter
  have single : Text.occurrences delimiter.toList delimiter.toList = 1 := by decide
  -- The newline of the line is no quote, so no delimiter reaches over it.
  have newline := Text.occurrences_append_cons (show '\n' ∉ delimiter.toList by decide) (by decide)
    (unit.indent level delimiter).toList rest
  rw [indented, single] at newline
  simpa [delimiterLine, Indent.indent, delimiter] using newline

/--
The delimiters of a block are its first line, its last line and those of the comment text.

So a block holds no other delimiter than its own exactly when its text holds none.
-/
theorem delimiters_of_block {source : CommentSource} {text : String}
    (given : source.text? = some text) (several : '\n' ∈ text.toList) (unit : Indent)
    (level : Nat) :
    renderWith unit level source =
        delimiterLine unit level ++ blockBody unit level text ++ delimiterLine unit level ∧
      Text.occurrences delimiter.toList (blockBody unit level text).toList =
        Text.occurrences delimiter.toList text.toList ∧
      (Text.occurrences delimiter.toList (renderWith unit level source).toList = 2 ↔
        ¬ delimiter.toList <:+: text.toList) := by
  have rendered : renderWith unit level source = fragment unit level text := by
    simp [renderWith, given]
  have block := rendered.trans (fragment_eq_block several unit level)
  -- The three parts of a block are counted from its end.
  have inBody := occurrences_blockBody_append unit level text []
  have closing := occurrences_delimiterLine_append unit level []
  have opening := occurrences_delimiterLine_append unit level
    ((blockBody unit level text).toList ++ (delimiterLine unit level).toList)
  rw [occurrences_blockBody_append] at opening
  simp only [List.append_nil, Text.occurrences, Nat.add_zero] at inBody closing
  refine ⟨block, inBody, ?_⟩
  rw [block, String.toList_append, String.toList_append, List.append_assoc, opening, closing,
    ← Text.occurrences_eq_zero_iff (by decide)]
  omega

/-- A text of two lines without a delimiter stands between the only two delimiters of its block. -/
theorem delimiters_of_two_lines :
    CommentSource.text? (.text "a */\n\"\" b") = some "a */\n\"\" b" ∧
      '\n' ∈ "a */\n\"\" b".toList ∧
      Text.occurrences delimiter.toList
        (renderWith .tab 2 (.text "a */\n\"\" b")).toList = 2 := by
  have given : CommentSource.text? (.text "a */\n\"\" b") = some "a */\n\"\" b" := by
    simp [CommentSource.text?]
  have several : '\n' ∈ "a */\n\"\" b".toList := by decide
  exact ⟨given, several, (delimiters_of_block given several .tab 2).2.2.mpr (by decide +kernel)⟩

/-- A delimiter in a comment text closes the block, and the line behind it is code. -/
theorem delimiter_closes_block_early :
    '\n' ∈ "a\n\"\"\"\nimport os".toList ∧
      renderWith .python 0 (.text "a\n\"\"\"\nimport os") =
        "\"\"\"\na\n\"\"\"\nimport os\n\"\"\"\n" ∧
      Text.occurrences delimiter.toList
        (renderWith .python 0 (.text "a\n\"\"\"\nimport os")).toList = 3 := by
  decide +kernel

end DeclGen.Comment
