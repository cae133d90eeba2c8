import DeclGen.Proofs.Text.Lines
import Mathlib.Algebra.GroupWithZero.Nat

/-! How often a pattern occurs in a text, at whatever position and overlaps included. -/

namespace DeclGen.Text

/-- The count of positions of a text at which a pattern starts. -/
def occurrences (pattern : List Char) : List Char → Nat
  | [] => 0
  | c :: rest => (if pattern <+: c :: rest then 1 else 0) + occurrences pattern rest

/-- A pattern that occurs nowhere is no part of the text. -/
theorem occurrences_eq_zero_iff {pattern : List Char} (filled : pattern ≠ []) (text : List Char) :
    occurrences pattern text = 0 ↔ ¬ pattern <:+: text := by
  -- An infix starts either here or further on.
  induction text with
  | nil => simp [occurrences, filled]
  | cons c rest ih =>
    rw [List.infix_cons_iff, not_or, ← ih, occurrences, Nat.add_eq_zero_iff]
    simp

/-- What follows a character that the pattern lacks has no part in where the pattern starts. -/
theorem prefix_append_cons_iff {pattern : List Char} {c : Char} (foreign : c ∉ pattern)
    (left right : List Char) : pattern <+: left ++ c :: right ↔ pattern <+: left := by
  constructor
  · intro found
    -- A longer match would cover the foreign character.
    have fits : pattern.length ≤ left.length := by
      refine Nat.le_of_not_lt fun longer => ?_
      have covered : left ++ [c] <+: pattern := by
        have whole : left ++ [c] <+: left ++ c :: right := ⟨right, by simp⟩
        refine List.prefix_of_prefix_length_le whole found ?_
        simp only [List.length_append, List.length_singleton]
        omega
      exact foreign (covered.subset (by simp))
    exact List.prefix_of_prefix_length_le found (List.prefix_append left (c :: right)) fits
  · intro found
    exact found.trans (List.prefix_append left (c :: right))

/-- A character that the pattern lacks divides its occurrences into those on either side. -/
theorem occurrences_append_cons {pattern : List Char} {c : Char} (foreign : c ∉ pattern)
    (filled : pattern ≠ []) (left right : List Char) :
    occurrences pattern (left ++ c :: right) =
      occurrences pattern left + occurrences pattern right := by
  induction left with
  | nil =>
    -- A pattern that starts here would need the foreign character.
    have missed : ¬ pattern <+: c :: right := by
      intro found
      have : pattern <+: [] := (prefix_append_cons_iff foreign [] right).mp found
      exact filled (List.prefix_nil.mp this)
    simp [occurrences, missed]
  | cons d rest ih =>
    have here := prefix_append_cons_iff foreign (d :: rest) right
    rw [List.cons_append] at here
    simp only [List.cons_append, occurrences, here, ih]
    omega

/-- A text of characters that the pattern lacks adds no occurrence in front of another text. -/
theorem occurrences_append_of_foreign {pattern left : List Char} (filled : pattern ≠ [])
    (foreign : ∀ c ∈ left, c ∉ pattern) (right : List Char) :
    occurrences pattern (left ++ right) = occurrences pattern right := by
  induction left with
  | nil => rfl
  | cons c rest ih =>
    -- Each foreign character cuts the text, and nothing is found in front of the cut.
    have head := occurrences_append_cons (foreign c (by simp)) filled [] (rest ++ right)
    rw [List.cons_append, show c :: (rest ++ right) = [] ++ c :: (rest ++ right) from rfl, head,
      ih (fun d member => foreign d (by simp [member]))]
    simp [occurrences]

/-- A text of characters that the pattern lacks is passed over by a search for the pattern. -/
theorem infix_append_iff_of_foreign {pattern left : List Char} (filled : pattern ≠ [])
    (foreign : ∀ c ∈ left, c ∉ pattern) (right : List Char) :
    pattern <:+: left ++ right ↔ pattern <:+: right := by
  have count := occurrences_append_of_foreign filled foreign right
  rw [← not_iff_not, ← occurrences_eq_zero_iff filled, ← occurrences_eq_zero_iff filled, count]

/-- A pattern within one line occurs in joined lines as often as in all of them together. -/
theorem occurrences_joinLines {pattern : List Char} (filled : pattern ≠ []) (line : '\n' ∉ pattern)
    (parts : List String) :
    occurrences pattern (joinLines parts).toList =
      (parts.map fun part => occurrences pattern part.toList).sum := by
  -- Each newline between two lines divides the occurrences.
  induction parts with
  | nil => simp [joinLines, occurrences]
  | cons first parts ih =>
    cases parts with
    | nil => simp
    | cons second parts =>
      simp only [joinLines_cons_cons, String.toList_append, List.append_assoc]
      rw [show "\n".toList ++ (joinLines (second :: parts)).toList
          = '\n' :: (joinLines (second :: parts)).toList from rfl,
        occurrences_append_cons line filled, ih]
      rfl

/-- A pattern within one line occurs in a text as often as in all its lines together. -/
theorem sum_occurrences_lines {pattern : List Char} (filled : pattern ≠ []) (line : '\n' ∉ pattern)
    (text : String) :
    ((lines text).map fun part => occurrences pattern part.toList).sum =
      occurrences pattern text.toList := by
  rw [← occurrences_joinLines filled line, joinLines_lines]

/-- A pattern within one line is found in a text exactly if it is found in one of the lines. -/
theorem infix_iff_exists_line {pattern : List Char} (filled : pattern ≠ []) (line : '\n' ∉ pattern)
    (text : String) :
    pattern <:+: text.toList ↔ ∃ part ∈ lines text, pattern <:+: part.toList := by
  -- No occurrence in the whole text means that no line adds one.
  rw [← not_iff_not, ← occurrences_eq_zero_iff filled, ← sum_occurrences_lines filled line,
    List.sum_eq_zero_iff_forall_eq_nat]
  simp [occurrences_eq_zero_iff filled]

/-- A text without the first character of the pattern adds no occurrence in front of another one. -/
theorem occurrences_append_of_first_not_mem {p : Char} (ps : List Char) {left : List Char}
    (absent : p ∉ left) (right : List Char) :
    occurrences (p :: ps) (left ++ right) = occurrences (p :: ps) right := by
  -- No position on the left has the character that the pattern starts with.
  induction left with
  | nil => rfl
  | cons c rest ih =>
    simp only [List.mem_cons, not_or] at absent
    have missed : ¬ p :: ps <+: c :: (rest ++ right) := by
      simp [List.cons_prefix_cons, absent.1]
    rw [List.cons_append, occurrences, if_neg missed, ih absent.2, Nat.zero_add]

/-- A pattern does not occur in a text without its first character. -/
theorem occurrences_eq_zero_of_first_not_mem {p : Char} (ps : List Char) {text : List Char}
    (absent : p ∉ text) : occurrences (p :: ps) text = 0 := by
  simpa [occurrences] using occurrences_append_of_first_not_mem ps absent []

/-- The count of lines of a text that start with a pattern. -/
def startingLines (pattern : List Char) (text : String) : Nat :=
  (lines text).countP fun line => pattern <+: line.toList

/-- A newline keeps the lines of two texts apart, so those that start alike add up. -/
theorem startingLines_append_newline (pattern : List Char) (first second : String) :
    startingLines pattern (first ++ "\n" ++ second) =
      startingLines pattern first + startingLines pattern second := by
  rw [startingLines, lines_append_newline, List.countP_append]
  rfl

/-- A text that starts with a pattern has a line that does, if the pattern is within one line. -/
theorem one_le_startingLines {pattern : List Char} (line : '\n' ∉ pattern) {text : String}
    (starts : pattern <+: text.toList) : 1 ≤ startingLines pattern text := by
  obtain ⟨rest, whole⟩ := starts
  -- The pattern joins the first line of what is behind it.
  obtain ⟨part, parts, cut⟩ := exists_split_cons '\n' rest
  have first := split_append_of_not_mem line cut
  rw [startingLines, lines, ← whole, first, List.map_cons, List.countP_cons_of_pos (by simp)]
  omega

/-- A line that starts with a pattern has it in it. -/
theorem startingLines_le_occurrences {pattern : List Char} (filled : pattern ≠ [])
    (line : '\n' ∉ pattern) (text : String) :
    startingLines pattern text ≤ occurrences pattern text.toList := by
  -- The occurrences are counted line by line, and a line counts for one of them at least.
  rw [← sum_occurrences_lines filled line, startingLines]
  induction lines text with
  | nil => simp
  | cons first rest ih =>
    have here : (if pattern <+: first.toList then 1 else 0) ≤ occurrences pattern first.toList := by
      cases first.toList with
      | nil => simp [filled]
      | cons c cs => simp [occurrences]
    simp only [List.countP_cons, decide_eq_true_eq, List.map_cons, List.sum_cons]
    omega

/-- The lines of joined texts are counted in each of them. -/
theorem startingLines_joinLines {pattern : List Char} {parts : List String}
    (joined : parts ≠ []) :
    startingLines pattern (joinLines parts) = (parts.map (startingLines pattern)).sum := by
  rw [startingLines, lines_joinLines joined, List.countP_flatMap]
  rfl

end DeclGen.Text
