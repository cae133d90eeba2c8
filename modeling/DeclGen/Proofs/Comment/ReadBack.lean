import DeclGen.Proofs.Comment.Fragment

/-!
A comment text is read back from its fragment, up to the escape.

The layout loses nothing: every fragment gives back the escaped text. The escape merges a terminator
with one that has its backslash already, and it is undone exactly on texts without the latter.
-/

namespace DeclGen.Comment

/-- What the escape puts in the place of a terminator. -/
def escapedTerminator : List Char := ['*', '\\', '/']

/-- Takes the backslash out of every escaped terminator. -/
def unescape : List Char → List Char
  | '*' :: '\\' :: '/' :: rest => '*' :: '/' :: unescape rest
  | c :: rest => c :: unescape rest
  | [] => []

/-- A line without the levels in front of it. -/
def unindent (unit : Indent) (level : Nat) (line : String) : String :=
  String.ofList (line.toList.drop (unit.levels level).length)

/-- The escaped text of the comment that has a fragment. -/
def readEscaped (unit : Indent) (level : Nat) (fragment : String) : String :=
  match (Text.lines fragment).map (unindent unit level) with
  -- A line behind `# `, with nothing behind its newline.
  | [line, _] => String.ofList (line.toList.drop 2)
  -- A delimiter in front, and at the end a delimiter with nothing behind its newline.
  | lines => Text.joinLines (lines.drop 1).dropLast.dropLast

/-- The text of the comment that has a fragment. -/
def readBack (unit : Indent) (level : Nat) (fragment : String) : String :=
  String.ofList (unescape (readEscaped unit level fragment).toList)

/-- Taking the indentation of a level away undoes it. -/
theorem unindent_indent (unit : Indent) (level : Nat) (line : String) :
    unindent unit level (unit.indent level line) = line := by
  simp [unindent, Indent.indent, ← String.length_toList]

/-- A comment text is a fragment, or nothing where it is empty. -/
theorem renderWith_text (unit : Indent) (level : Nat) (text : String) :
    renderWith unit level (.text text) = if text = "" then "" else fragment unit level text := by
  by_cases empty : text = "" <;> simp [renderWith, CommentSource.text?, empty]

/-- There is nothing to take away from an empty line. -/
theorem unindent_empty (unit : Indent) (level : Nat) : unindent unit level "" = "" := by
  simp [unindent]

/-- The line behind `# ` is read out of a fragment that has one. -/
theorem readEscaped_fragment_of_not_mem {unit : Indent} {level : Nat} {text : String}
    (line : '\n' ∉ text.toList) : readEscaped unit level (fragment unit level text) =
      escapedLine text := by
  -- A fragment of one line starts with the sharp, which tells it from a block.
  have lines : (Text.lines (fragment unit level text)).map (unindent unit level) =
      ["# " ++ escapedLine text, ""] := by
    rw [lines_fragment_of_not_mem line]
    simp [unindent_indent, unindent_empty]
  simp [readEscaped, lines]

/-- The lines between the delimiters are read out of a fragment that has them. -/
theorem readEscaped_fragment_of_mem {unit : Indent} {level : Nat} {text : String}
    (block : '\n' ∈ text.toList) : readEscaped unit level (fragment unit level text) =
      escapedLine text := by
  have lines : (Text.lines (fragment unit level text)).map (unindent unit level) =
      delimiter :: (escapedLines text ++ [delimiter, ""]) := by
    rw [lines_fragment_of_mem block, escapedLines_eq text]
    simp [unindent_indent, unindent_empty, Function.comp_def]
  have inner : (escapedLines text ++ [delimiter, ""]).dropLast.dropLast = escapedLines text := by
    simp
  -- There are at least two lines between the delimiters, so the block is not taken for a line.
  obtain ⟨first, second, rest, listed⟩ := exists_escapedLines_of_mem block
  rw [readEscaped, lines]
  rw [listed] at inner ⊢
  simp only [List.cons_append, List.drop_succ_cons, List.drop_zero] at inner ⊢
  rw [inner, ← listed, escapedLines, Text.joinLines_lines, escapedLine]

/-- The layout of a fragment is undone, whatever the lines of its text look like. -/
theorem readEscaped_renderWith (unit : Indent) (level : Nat) (text : String) :
    readEscaped unit level (renderWith unit level (.text text)) = escapedLine text := by
  rw [renderWith_text]
  by_cases empty : text = ""
  · -- No text at all has one empty line.
    subst empty
    rfl
  · rw [if_neg empty]
    by_cases block : '\n' ∈ text.toList
    · exact readEscaped_fragment_of_mem block
    · exact readEscaped_fragment_of_not_mem block

/-- A backslash in front of a slash starts an escaped text where it starts the text. -/
theorem slashed_prefix_escape_iff (text : List Char) :
    ['\\', '/'] <+: escape text ↔ ['\\', '/'] <+: text := by
  fun_cases escape text with
  | case1 rest =>
    -- A star stands in front on both sides.
    simp [List.cons_prefix_cons]
  | case2 c rest other =>
    cases rest with
    | nil => rfl
    | cons d rest =>
      -- The escape leaves the second character, too, where it is.
      obtain ⟨others, found⟩ := List.head?_eq_some_iff.mp (head?_escape (d :: rest))
      rw [found]
      simp [List.cons_prefix_cons]
  | case3 => rfl

/-- The escape is undone exactly where the text has no escaped terminator of its own. -/
theorem unescape_escape_eq_iff (text : List Char) :
    unescape (escape text) = text ↔ ¬ escapedTerminator <:+: text := by
  fun_induction escape text with
  | case1 rest ih =>
    -- Neither of the two characters starts one.
    rw [unescape, List.cons_inj_right, List.cons_inj_right, ih]
    simp [escapedTerminator, List.infix_cons_iff]
  | case2 c rest other ih =>
    have start : escapedTerminator <+: c :: rest ↔ c = '*' ∧ ['\\', '/'] <+: rest := by
      rw [escapedTerminator, List.cons_prefix_cons, eq_comm]
    by_cases slashed : c = '*' ∧ ['\\', '/'] <+: rest
    · -- The text starts with an escaped terminator, which loses its backslash.
      have found : escapedTerminator <:+: c :: rest := (start.mpr slashed).isInfix
      obtain ⟨rfl, tail, rfl⟩ := slashed
      obtain ⟨others, slash⟩ := (slashed_prefix_escape_iff _).mpr ⟨tail, rfl⟩
      rw [← slash]
      simpa [unescape] using found
    · -- The character is none that loses a backslash, so it stays and the rest decides.
      have alone : ∀ others, c = '*' → escape rest = '\\' :: '/' :: others → False := by
        intro others star slash
        exact slashed ⟨star, (slashed_prefix_escape_iff rest).mp ⟨others, slash.symm⟩⟩
      rw [unescape.eq_2 c _ alone, List.infix_cons_iff, start, List.cons_inj_right, ih]
      simp [slashed]
  | case3 => decide

/-- Texts that differ after the escape have different fragments. -/
theorem renderWith_eq_iff (unit : Indent) (level : Nat) (one other : String) :
    renderWith unit level (.text one) = renderWith unit level (.text other) ↔
      escape one.toList = escape other.toList := by
  constructor
  · intro same
    -- The same fragment is read in the same way.
    have read := congrArg (readEscaped unit level) same
    rw [readEscaped_renderWith, readEscaped_renderWith] at read
    simpa [escapedLine] using congrArg String.toList read
  · intro same
    -- A fragment is made of the escaped text, and so is the question whether there is any.
    have empty : one = "" ↔ other = "" := by
      rw [← String.toList_eq_nil_iff, ← String.toList_eq_nil_iff, ← escape_eq_nil_iff, same,
        escape_eq_nil_iff]
    simp only [renderWith_text, fragment, same, empty]

/--
A comment fragment tells its text but for the escape, and loses no line of it.

Two texts have the same fragment exactly if the escape makes them equal, so a line is never taken
for a block. The text itself is read back exactly if no terminator in it is escaped already. The
lines of a block are those of its text in order, be they empty or not, and only the empty text has
no fragment.
-/
theorem fragments_tell_texts (unit : Indent) (level : Nat) :
    (∀ one other : String,
        renderWith unit level (.text one) = renderWith unit level (.text other) ↔
          escape one.toList = escape other.toList) ∧
      (∀ text : String,
        readBack unit level (renderWith unit level (.text text)) = text ↔
          ¬ escapedTerminator <:+: text.toList) ∧
      (∀ single several : String, '\n' ∉ single.toList → '\n' ∈ several.toList →
        renderWith unit level (.text single) ≠ renderWith unit level (.text several)) ∧
      (∀ text : String, text ≠ "" → '\n' ∉ text.toList →
        Text.lines (renderWith unit level (.text text)) =
          [unit.indent level ("# " ++ escapedLine text), ""]) ∧
      (∀ text : String, '\n' ∈ text.toList →
        Text.lines (renderWith unit level (.text text)) =
          unit.indent level delimiter ::
            (Text.lines text).map (fun line => unit.indent level (escapedLine line)) ++
            [unit.indent level delimiter, ""]) ∧
      ∀ text : String, renderWith unit level (.text text) = "" ↔ text = "" := by
  have nonempty : ∀ text : String, '\n' ∈ text.toList → text ≠ "" := by
    rintro text several rfl
    simp at several
  refine ⟨renderWith_eq_iff unit level, fun text => ?_, fun single several line block same => ?_,
    fun text filled line => ?_, fun text block => ?_, fun text => ?_⟩
  · -- What is left of the reading once the layout is undone is to undo the escape.
    rw [readBack, readEscaped_renderWith, ← unescape_escape_eq_iff, ← String.toList_inj]
    simp [escapedLine]
  · -- The escape neither makes nor removes a newline.
    have escaped := (renderWith_eq_iff unit level single several).mp same
    have found := (newline_mem_escape several.toList).mpr block
    rw [← escaped, newline_mem_escape] at found
    exact line found
  · rw [renderWith_text, if_neg filled, lines_fragment_of_not_mem line]
  · rw [renderWith_text, if_neg (nonempty text block), lines_fragment_of_mem block]
  · -- The empty text has no fragment, and the escape makes no other text empty.
    have told := renderWith_eq_iff unit level text ""
    rw [renderWith_text unit level "", if_pos rfl] at told
    rw [told, ← String.toList_eq_nil_iff]
    exact escape_eq_nil_iff text.toList

/--
A terminator and an escaped one have the same fragment, which is read back as the former; a line
that looks like part of a block is told from a block with that line between two empty ones.
-/
theorem fragments_tell_texts_of_terminator :
    renderWith .tab 2 (.text "a**/b") = renderWith .tab 2 (.text "a**\\/b") ∧
      ¬ escapedTerminator <:+: "a**/b".toList ∧
      readBack .tab 2 (renderWith .tab 2 (.text "a**/b")) = "a**/b" ∧
      readBack .tab 2 (renderWith .tab 2 (.text "a**\\/b")) ≠ "a**\\/b" ∧
      '\n' ∉ "\"\"\"".toList ∧ '\n' ∈ "\n\"\"\"\n".toList ∧
      renderWith .tab 2 (.text "\"\"\"") ≠ renderWith .tab 2 (.text "\n\"\"\"\n") := by
  obtain ⟨same, back, apart, -⟩ := fragments_tell_texts .tab 2
  have plain : ¬ escapedTerminator <:+: "a**/b".toList := by decide
  have line : '\n' ∉ "\"\"\"".toList := by decide
  have block : '\n' ∈ "\n\"\"\"\n".toList := by decide
  -- The text that is escaped already is the one that does not come back.
  exact ⟨(same _ _).mpr (by decide), plain, (back _).mpr plain,
    fun read => (back _).mp read (by decide), line, block, apart _ _ line block⟩

end DeclGen.Comment
