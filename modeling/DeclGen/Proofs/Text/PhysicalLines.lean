import DeclGen.Proofs.Text.Occurrences
import Mathlib.Data.List.Infix

/-!
The lines of a text for a reader that ends a line at LF, at CR, and at CR with LF behind it.

Python reads its source this way. A line that is cut at newlines only is one of these lines exactly
if it has no CR in it.
-/

namespace DeclGen.Text

/-- Puts a newline in the place of every line end. -/
def unifyLineEnds : List Char → List Char
  -- The two characters of one line end make one newline.
  | '\r' :: '\n' :: rest => '\n' :: unifyLineEnds rest
  | '\r' :: rest => '\n' :: unifyLineEnds rest
  | c :: rest => c :: unifyLineEnds rest
  | [] => []

/-- The lines of a text between its line ends. -/
def physicalLines (text : String) : List String :=
  lines (String.ofList (unifyLineEnds text.toList))

/-- A text is one line where the only LF or CR in it is the newline that it ends with. -/
def IsPhysicalLine (text : String) : Prop :=
  ∃ line : String, text = line ++ "\n" ∧ '\n' ∉ line.toList ∧ '\r' ∉ line.toList

/-- A text without CR stays as it is. -/
theorem unifyLineEnds_append_of_not_mem {front : List Char} (plain : '\r' ∉ front)
    (rest : List Char) : unifyLineEnds (front ++ rest) = front ++ unifyLineEnds rest := by
  -- No character in front starts a line end other than a newline, which stays, too.
  induction front with
  | nil => rfl
  | cons c front ih =>
    simp only [List.mem_cons, not_or] at plain
    have other : c ≠ '\r' := Ne.symm plain.1
    rw [List.cons_append, unifyLineEnds.eq_3 c _ (fun _ same => absurd same other) other,
      ih plain.2]
    rfl

/-- No CR is left where every line end is a newline. -/
theorem carriageReturn_not_mem_unifyLineEnds (text : List Char) : '\r' ∉ unifyLineEnds text := by
  -- A CR goes with the LF behind it or becomes one; no other character is a CR.
  fun_induction unifyLineEnds text with
  | case1 rest ih => simp [ih]
  | case2 rest apart ih => simp [ih]
  | case3 c rest pair other ih => simpa [ih] using Ne.symm other
  | case4 => simp

/-- No physical line has a CR in it. -/
theorem carriageReturn_not_mem_of_mem_physicalLines {text line : String}
    (member : line ∈ physicalLines text) : '\r' ∉ line.toList := by
  intro found
  -- What is found in a line is found in the text that it was cut from.
  have inside : ['\r'] <:+: (String.ofList (unifyLineEnds text.toList)).toList :=
    (infix_iff_exists_line (by simp) (by decide) _).mpr
      ⟨line, member, (List.singleton_infix_iff _ _).mpr found⟩
  rw [List.singleton_infix_iff, String.toList_ofList] at inside
  exact carriageReturn_not_mem_unifyLineEnds text.toList inside

variable {line : String} (single : '\n' ∉ line.toList)
include single

/-- A line with its newline is one physical line exactly if it has no CR in it. -/
theorem isPhysicalLine_append_newline_iff :
    IsPhysicalLine (line ++ "\n") ↔ '\r' ∉ line.toList := by
  constructor
  · rintro ⟨other, same, -, plain⟩
    -- Both texts end with the same newline, so they agree in front of it.
    have equal : line = other := by simpa using same
    exact equal ▸ plain
  · exact fun plain => ⟨line, rfl, single, plain⟩

/-- A line in front of a text is its first physical line exactly if it has no CR in it. -/
theorem physicalLines_append_newline_iff (rest : String) :
    physicalLines (line ++ "\n" ++ rest) = line :: physicalLines rest ↔ '\r' ∉ line.toList := by
  constructor
  · -- A physical line has no CR, and the line is one of them.
    intro cut
    exact carriageReturn_not_mem_of_mem_physicalLines (cut ▸ List.mem_cons_self)
  · -- Without a CR the first line end is the newline behind the line.
    intro plain
    have unified : unifyLineEnds (line ++ "\n" ++ rest).toList =
        (line ++ "\n" ++ String.ofList (unifyLineEnds rest.toList)).toList := by
      have kept := unifyLineEnds_append_of_not_mem plain ('\n' :: rest.toList)
      simpa [unifyLineEnds] using kept
    rw [physicalLines, unified, String.ofList_toList, lines_append_newline, lines_of_not_mem single]
    rfl

end DeclGen.Text
