import DeclGen.Comment
import DeclGen.Proofs.Text.Occurrences

/-! The escape of comments only ever puts backslashes in, each between a `*` and a `/`. -/

namespace DeclGen.Comment

/-- The escape makes no character but the backslash, and removes none. -/
theorem mem_escape_iff {c : Char} (other : c ≠ '\\') (text : List Char) :
    c ∈ escape text ↔ c ∈ text := by
  fun_induction escape text with
  | case1 rest ih => simp [ih, other]
  | case2 d rest apart ih => simp [ih]
  | case3 => simp

/-- A newline is neither made nor removed by the escape. -/
theorem newline_mem_escape (text : List Char) : '\n' ∈ escape text ↔ '\n' ∈ text :=
  mem_escape_iff (by decide) text

/--
A pattern without the three characters of the escape starts an escaped text where it starts the
text.
-/
theorem prefix_escape_iff {pattern : List Char} (star : '*' ∉ pattern) (slash : '/' ∉ pattern)
    (backslash : '\\' ∉ pattern) (text : List Char) :
    pattern <+: escape text ↔ pattern <+: text := by
  fun_induction escape text generalizing pattern with
  | case1 rest ih =>
    -- Only the empty pattern gets past a star.
    cases pattern with
    | nil => simp
    | cons p ps =>
      have : p ≠ '*' := fun same => star (by simp [same])
      simp [List.cons_prefix_cons, this]
  | case2 c rest other ih =>
    cases pattern with
    | nil => simp
    | cons p ps =>
      simp only [List.mem_cons, not_or] at star slash backslash
      simp [List.cons_prefix_cons, ih star.2 slash.2 backslash.2]
  | case3 => rfl

/-- A pattern without the three characters of the escape occurs as often as before. -/
theorem occurrences_escape {pattern : List Char} (filled : pattern ≠ []) (star : '*' ∉ pattern)
    (slash : '/' ∉ pattern) (backslash : '\\' ∉ pattern) (text : List Char) :
    Text.occurrences pattern (escape text) = Text.occurrences pattern text := by
  fun_induction escape text with
  | case1 rest ih =>
    -- The characters of the terminator, with or without the backslash, start no occurrence.
    have escaped : Text.occurrences pattern (['*', '\\', '/'] ++ escape rest) =
        Text.occurrences pattern (escape rest) :=
      Text.occurrences_append_of_foreign filled (by simp [star, slash, backslash]) _
    have plain : Text.occurrences pattern (['*', '/'] ++ rest) = Text.occurrences pattern rest :=
      Text.occurrences_append_of_foreign filled (by simp [star, slash]) _
    simp only [List.cons_append, List.nil_append] at escaped plain
    rw [escaped, plain, ih]
  | case2 c rest other ih =>
    have here := prefix_escape_iff star slash backslash (c :: rest)
    rw [escape.eq_2 c rest other] at here
    simp only [Text.occurrences, here, ih]
  | case3 => rfl

/-- The escape leaves the first character where it is. -/
theorem head?_escape (text : List Char) : (escape text).head? = text.head? := by
  fun_cases escape text <;> rfl

/-- Only an empty text is escaped to an empty one. -/
theorem escape_eq_nil_iff (text : List Char) : escape text = [] ↔ text = [] := by
  fun_cases escape text <;> simp

/-- The lines of an escaped text are the escaped lines of the text. -/
theorem split_escape (text : List Char) :
    Text.split '\n' (escape text) = (Text.split '\n' text).map escape := by
  fun_induction escape text with
  | case1 rest ih =>
    -- Neither the terminator nor what stands for it has a newline, so both join the first line.
    obtain ⟨part, parts, cut⟩ := Text.exists_split_cons '\n' rest
    rw [cut] at ih
    have plain := Text.split_append_of_not_mem (show '\n' ∉ ['*', '/'] by decide) cut
    have escaped := Text.split_append_of_not_mem (show '\n' ∉ ['*', '\\', '/'] by decide) ih
    simp only [List.cons_append, List.nil_append] at plain escaped
    rw [plain, escaped]
    simp [escape]
  | case2 c rest other ih =>
    obtain ⟨part, parts, cut⟩ := Text.exists_split_cons '\n' rest
    rw [cut] at ih
    -- A newline ends the line on both sides; any other character joins the first line.
    by_cases newline : c = '\n'
    · subst newline
      rw [Text.split_separator, Text.split_separator, ih, cut]
      rfl
    · -- A slash behind a star would be the first character of the rest, too.
      have alone : ∀ tail, c = '*' → part = '/' :: tail → False := by
        intro tail star slash
        have first := Text.head?_of_split cut (c := '/') (by rw [slash]; rfl)
        obtain ⟨others, found⟩ := List.head?_eq_some_iff.mp first
        exact other others star found
      rw [Text.split_other newline cut, Text.split_other newline ih, List.map_cons,
        escape.eq_2 c part alone]
  | case3 => rfl

end DeclGen.Comment
