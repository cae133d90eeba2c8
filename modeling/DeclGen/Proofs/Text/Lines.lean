import DeclGen.Text.Lines

/-! A text is its lines, with one newline between neighbours. -/

namespace DeclGen.Text

/-- Cutting a text leaves at least one part. -/
theorem exists_split_cons (separator : Char) (text : List Char) :
    ∃ part parts, split separator text = part :: parts := by
  refine List.exists_cons_of_ne_nil ?_
  -- Both branches of a character put a part in front.
  cases text with
  | nil => simp [split]
  | cons c rest =>
    simp only [split]
    split
    · simp
    · split <;> simp

/-- A separator closes an empty part. -/
theorem split_separator (separator : Char) (rest : List Char) :
    split separator (separator :: rest) = [] :: split separator rest := by
  simp [split]

/-- Any other character joins the part that follows it. -/
theorem split_other {separator c : Char} (other : c ≠ separator) {rest part : List Char}
    {parts : List (List Char)} (cut : split separator rest = part :: parts) :
    split separator (c :: rest) = (c :: part) :: parts := by
  simp [split, other, cut]

/-- A text without the separator is one part. -/
theorem split_of_not_mem {separator : Char} {text : List Char} (absent : separator ∉ text) :
    split separator text = [text] := by
  -- Each character joins the one part that the characters behind it make.
  induction text with
  | nil => rfl
  | cons c rest ih =>
    simp only [List.mem_cons, not_or] at absent
    exact split_other (Ne.symm absent.1) (ih absent.2)

/-- A separator in a text makes at least two parts. -/
theorem exists_split_of_mem {separator : Char} {text : List Char} (found : separator ∈ text) :
    ∃ first second parts, split separator text = first :: second :: parts := by
  -- The first separator closes a part, and what is behind it has a part of its own.
  induction text with
  | nil => simp at found
  | cons c rest ih =>
    by_cases same : c = separator
    · subst same
      obtain ⟨part, parts, cut⟩ := exists_split_cons c rest
      exact ⟨[], part, parts, by rw [split_separator, cut]⟩
    · have later : separator ∈ rest := by simpa [Ne.symm same] using found
      obtain ⟨first, second, parts, cut⟩ := ih later
      exact ⟨c :: first, second, parts, split_other same cut⟩

/-- Putting the separator back between the parts of a text gives the text. -/
theorem intercalate_split (separator : Char) (text : List Char) :
    [separator].intercalate (split separator text) = text := by
  induction text with
  | nil => simp [split]
  | cons c rest ih =>
    -- The first part of the rest is what the character joins or stands in front of.
    obtain ⟨part, parts, cut⟩ := exists_split_cons separator rest
    by_cases same : c = separator
    · subst same
      rw [split_separator, cut, List.intercalate_cons_cons, ← cut, ih]
      rfl
    · rw [split_other same cut, List.intercalate_cons_cons_left, ← cut, ih]

/-- The characters of joined lines are those of the lines with newlines between them. -/
theorem toList_joinLines (parts : List String) :
    (joinLines parts).toList = ['\n'].intercalate (parts.map String.toList) := by
  simp [joinLines, String.toList_intercalate]

/-- The lines of a text, joined, are the text. -/
theorem joinLines_lines (text : String) : joinLines (lines text) = text := by
  apply String.toList_injective
  simp [toList_joinLines, lines, List.map_map, Function.comp_def, intercalate_split]

/-- A line alone stands as it is. -/
@[simp] theorem joinLines_singleton (line : String) : joinLines [line] = line := by
  simp [joinLines]

/-- A line in front of others is followed by a newline. -/
theorem joinLines_cons_cons (first second : String) (parts : List String) :
    joinLines (first :: second :: parts) = first ++ "\n" ++ joinLines (second :: parts) := by
  simp [joinLines, String.intercalate_cons_cons]

/-- Lines behind others stand behind a newline. -/
theorem joinLines_append (first : String) (parts : List String) (second : String)
    (rest : List String) :
    joinLines (first :: parts ++ second :: rest) =
      joinLines (first :: parts) ++ "\n" ++ joinLines (second :: rest) := by
  induction parts generalizing first with
  | nil => simp [joinLines_cons_cons]
  | cons next parts ih =>
    rw [List.cons_append, List.cons_append, joinLines_cons_cons, ← List.cons_append, ih,
      joinLines_cons_cons]
    simp only [String.append_assoc]

/-- Lines of which the first is not empty join to a text that is not empty. -/
theorem joinLines_ne_empty {first : String} (parts : List String) (filled : first ≠ "") :
    joinLines (first :: parts) ≠ "" := by
  cases parts with
  | nil => simpa using filled
  | cons second parts => simp [joinLines_cons_cons]

/-- A separator between two texts keeps their parts apart. -/
theorem split_append_cons (separator : Char) (left right : List Char) :
    split separator (left ++ separator :: right) =
      split separator left ++ split separator right := by
  -- The text on the left loses its first character, so the separator in the middle stays.
  induction left with
  | nil => exact split_separator separator right
  | cons c rest ih =>
    obtain ⟨part, parts, cut⟩ := exists_split_cons separator rest
    rw [cut, List.cons_append] at ih
    by_cases same : c = separator
    · -- Another separator on the left puts an empty part in front on both sides.
      subst same
      rw [List.cons_append, split_separator, split_separator, ih, cut]
      rfl
    · -- Any other character joins the first part on the left, which is there even in the end.
      rw [List.cons_append, split_other same ih, split_other same cut]
      rfl

/-- A text without the separator joins the part that follows it. -/
theorem split_append_of_not_mem {separator : Char} {front rest part : List Char}
    {parts : List (List Char)} (absent : separator ∉ front)
    (cut : split separator rest = part :: parts) :
    split separator (front ++ rest) = (front ++ part) :: parts := by
  induction front with
  | nil => exact cut
  | cons c front ih =>
    simp only [List.mem_cons, not_or] at absent
    exact split_other (Ne.symm absent.1) (ih absent.2)

/-- The first part of a text starts like the text, unless it is empty. -/
theorem head?_of_split {separator c : Char} {text part : List Char} {parts : List (List Char)}
    (cut : split separator text = part :: parts) (first : part.head? = some c) :
    text.head? = some c := by
  cases text with
  | nil =>
    cases cut
    simp at first
  | cons d rest =>
    by_cases same : d = separator
    · -- A separator in front leaves nothing for the first part.
      subst same
      rw [split_separator] at cut
      cases cut
      simp at first
    · obtain ⟨inner, others, inside⟩ := exists_split_cons separator rest
      rw [split_other same inside] at cut
      cases cut
      exact first

/-- No part of a text has the separator in it. -/
theorem not_mem_of_mem_split {separator : Char} {text part : List Char}
    (member : part ∈ split separator text) : separator ∉ part := by
  induction text generalizing part with
  | nil => simp_all [split]
  | cons c rest ih =>
    obtain ⟨first, parts, cut⟩ := exists_split_cons separator rest
    rw [cut] at ih
    by_cases same : c = separator
    · subst same
      rw [split_separator, cut, List.mem_cons] at member
      rcases member with rfl | member
      · simp
      · exact ih member
    · rw [split_other same cut, List.mem_cons] at member
      rcases member with rfl | member
      · -- The first part grows by a character that is no separator.
        have others := ih (List.mem_cons_self ..)
        simp [Ne.symm same, others]
      · exact ih (List.mem_cons_of_mem _ member)

/-- A text without a newline is one line. -/
theorem lines_of_not_mem {text : String} (single : '\n' ∉ text.toList) : lines text = [text] := by
  simp [lines, split_of_not_mem single]

/-- No line has a newline in it. -/
theorem newline_not_mem_of_mem_lines {text line : String} (member : line ∈ lines text) :
    '\n' ∉ line.toList := by
  obtain ⟨part, cut, rfl⟩ := List.mem_map.mp member
  simpa using not_mem_of_mem_split cut

/-- A newline between two texts keeps their lines apart. -/
theorem lines_append_newline (first second : String) :
    lines (first ++ "\n" ++ second) = lines first ++ lines second := by
  have cut := split_append_cons '\n' first.toList second.toList
  simp [lines, cut]

/-- Joined texts have the lines of all of them. -/
theorem lines_joinLines {parts : List String} (filled : parts ≠ []) :
    lines (joinLines parts) = parts.flatMap lines := by
  -- No texts at all join to the empty one, which has a line, so the induction starts at one text.
  obtain ⟨first, parts, rfl⟩ := List.exists_cons_of_ne_nil filled
  clear filled
  induction parts generalizing first with
  | nil => simp
  | cons second parts ih =>
    rw [joinLines_cons_cons, lines_append_newline, ih]
    rfl

/-- Joined lines are the lines of the text that they make. -/
theorem lines_joinLines_of_single {parts : List String} (filled : parts ≠ [])
    (single : ∀ part ∈ parts, '\n' ∉ part.toList) : lines (joinLines parts) = parts := by
  rw [lines_joinLines filled]
  clear filled
  -- What is left to show is that each part is its own only line.
  induction parts with
  | nil => rfl
  | cons first parts ih =>
    rw [List.flatMap_cons, lines_of_not_mem (single first (by simp)),
      ih fun part member => single part (by simp [member])]
    rfl

end DeclGen.Text
