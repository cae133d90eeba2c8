import DeclGen.Proofs.Comment.Layout

/-!
The escape of comments, character by character, and what it leaves out of a fragment.

A backslash stands in front of exactly those slashes that follow a star. No terminator is left in
any fragment, and so there is nothing to escape in a text that is escaped already.
-/

namespace DeclGen.Comment

/-- What would end a block comment of the C family. -/
def terminator : List Char := ['*', '/']

/-- What a character is written as, given the one in front of it. -/
def escapedAt (before : Option Char) (c : Char) : List Char :=
  if before = some '*' ∧ c = '/' then ['\\', c] else [c]

/-- Writes every character of a text by itself, with a look at the one in front of it. -/
def escapePointwise (text : List Char) : List Char :=
  (List.zipWith escapedAt (none :: text.map some) text).flatten

/-- The source of a comment with its text escaped. -/
def escapedSource : CommentSource → CommentSource
  | .absent => .absent
  | .text value => .text (escapedLine value)
  | .node literal => .node { literal with value := escapedLine literal.value }

/-- The escape looks no further back than one character. -/
theorem escape_eq_behind {before : Option Char} {text : List Char}
    (apart : ¬ (before = some '*' ∧ text.head? = some '/')) :
    escape text = (List.zipWith escapedAt (before :: text.map some) text).flatten := by
  fun_induction escape text generalizing before with
  | case1 rest ih =>
    -- The slash is the one character that is not written as it stands.
    have behind : escape rest =
        (List.zipWith escapedAt (some '/' :: rest.map some) rest).flatten := ih (by simp)
    simp [escapedAt, behind]
  | case2 c rest other ih =>
    have alone : escapedAt before c = [c] := if_neg (by simpa using apart)
    -- A star in front of a slash would have been the other case.
    have behind : ¬ (some c = some '*' ∧ rest.head? = some '/') := by
      rintro ⟨star, slash⟩
      obtain ⟨others, found⟩ := List.head?_eq_some_iff.mp slash
      exact other others (by simpa using star) found
    simp [alone, ih behind]
  | case3 => rfl

/-- Nothing stands in front of the first character. -/
theorem escape_eq_escapePointwise (text : List Char) : escape text = escapePointwise text :=
  escape_eq_behind (by simp)

/-- No terminator is left in an escaped text. -/
theorem terminator_not_infix_escape (text : List Char) : ¬ terminator <:+: escape text := by
  fun_induction escape text with
  | case1 rest ih =>
    -- The backslash keeps the star and the slash apart.
    simpa [terminator, List.infix_cons_iff, List.cons_prefix_cons] using ih
  | case2 c rest other ih =>
    intro found
    rcases List.infix_cons_iff.mp found with here | later
    · -- A terminator here would be one of the text itself, since a first character stays.
      obtain ⟨star, others, slash⟩ := List.cons_prefix_cons.mp here
      have first : rest.head? = some '/' := by rw [← head?_escape, ← slash]; rfl
      obtain ⟨tail, whole⟩ := List.head?_eq_some_iff.mp first
      exact other tail star.symm whole
    · exact ih later
  | case3 => simp [terminator]

/-- A text without a terminator is not changed by the escape. -/
theorem escape_of_not_infix {text : List Char} (free : ¬ terminator <:+: text) :
    escape text = text := by
  -- The recursion passes over a terminator or over one character, and here never over the former.
  fun_induction escape text with
  | case1 rest ih => exact absurd (List.prefix_append terminator rest).isInfix free
  | case2 c rest other ih =>
    have later : ¬ terminator <:+: rest := fun found => free (List.infix_cons_iff.mpr (.inr found))
    rw [ih later]
  | case3 => rfl

/-- A second escape finds nothing to do. -/
theorem escape_escape (text : List Char) : escape (escape text) = escape text :=
  escape_of_not_infix (terminator_not_infix_escape text)

/-- Indentation is no part of a terminator. -/
theorem terminator_infix_indent_iff (unit : Indent) (level : Nat) (line : String) :
    terminator <:+: (unit.indent level line).toList ↔ terminator <:+: line.toList := by
  have blank := not_mem_of_mem_levels (show ' ' ∉ terminator by decide) (by decide) unit level
  rw [Indent.indent, String.toList_append]
  exact Text.infix_append_iff_of_foreign (by decide) blank line.toList

/-- No line of a layout has a terminator in it. -/
theorem terminator_not_infix_of_mem_layout {text line : String} (member : line ∈ layout text) :
    ¬ terminator <:+: line.toList := by
  have escaped : ∀ part : String, ¬ terminator <:+: (escapedLine part).toList := by
    intro part
    simpa [escapedLine] using terminator_not_infix_escape part.toList
  rw [layout] at member
  split at member
  · -- The lines of the text stand between two delimiters, which are made of quotes.
    simp only [List.mem_append, List.mem_cons, List.mem_map, List.not_mem_nil, or_false] at member
    rcases member with (rfl | ⟨part, -, rfl⟩) | rfl
    · decide
    · exact escaped part
    · decide
  · -- Neither the sharp nor the blank behind it is part of a terminator.
    have foreign : ∀ c ∈ "# ".toList, c ∉ terminator := by simp [terminator]
    rw [List.mem_singleton.mp member, String.toList_append,
      Text.infix_append_iff_of_foreign (by decide) foreign]
    exact escaped text

/-- No fragment has a terminator in it, across its lines included. -/
theorem terminator_not_infix_fragment (unit : Indent) (level : Nat) (text : String) :
    ¬ terminator <:+: (fragment unit level text).toList := by
  -- A terminator has no newline, so it would be found in one of the lines.
  rw [Text.infix_iff_exists_line (by decide) (by decide), lines_fragment]
  rintro ⟨line, member, found⟩
  rcases List.mem_append.mp member with moved | last
  · obtain ⟨source, listed, rfl⟩ := List.mem_map.mp moved
    exact terminator_not_infix_of_mem_layout listed
      ((terminator_infix_indent_iff unit level source).mp found)
  · rw [List.mem_singleton.mp last] at found
    exact absurd found (by decide)

/-- The escape changes the text of a source and not whether there is one. -/
theorem text?_escapedSource (source : CommentSource) :
    (escapedSource source).text? = source.text?.map escapedLine := by
  -- A source counts as absent if its text is empty, which the escape does not change.
  have empty : ∀ text : String, escapedLine text = "" ↔ text = "" := by
    intro text
    rw [← String.toList_eq_nil_iff, escapedLine, String.toList_ofList, escape_eq_nil_iff,
      String.toList_eq_nil_iff]
  cases source with
  | absent => rfl
  | text value =>
    by_cases bare : value = "" <;> simp [escapedSource, CommentSource.text?, empty, bare]
  | node literal =>
    by_cases bare : literal.value = "" <;> simp [escapedSource, CommentSource.text?, empty, bare]

/-- A text that is escaped already has the fragment of the text itself. -/
theorem renderWith_escapedSource (unit : Indent) (level : Nat) (source : CommentSource) :
    renderWith unit level (escapedSource source) = renderWith unit level source := by
  rw [renderWith, renderWith, text?_escapedSource]
  cases source.text? with
  | none => rfl
  | some text => simp [fragment, escapedLine, escape_escape]

/--
The escape writes every character by itself, leaves no terminator, and changes nothing twice.

A slash behind a star gets a backslash, and every other character stays. No terminator is in any
fragment, be it in the text, at an indentation or across two lines. An escaped text is written like
the text that it was made from.
-/
theorem terminators_escaped_once :
    (∀ text : List Char, escape text = escapePointwise text) ∧
      (∀ (unit : Indent) (level : Nat) (source : CommentSource),
        ¬ terminator <:+: (renderWith unit level source).toList) ∧
      (∀ (unit : Indent) (level : Nat) (source : CommentSource),
        renderWith unit level (escapedSource source) = renderWith unit level source) ∧
      ∀ text : List Char, escape (escape text) = escape text := by
  refine ⟨escape_eq_escapePointwise, fun unit level source => ?_, renderWith_escapedSource,
    escape_escape⟩
  -- Only what is rendered is left, which is nothing or one fragment.
  rw [renderWith]
  cases source.text? with
  | none => simp [terminator]
  | some text => exact terminator_not_infix_fragment unit level text

/-- In a run of stars and slashes only the slash right behind a star is escaped. -/
example : escapePointwise "**//*".toList = "**\\//*".toList := by decide

end DeclGen.Comment
