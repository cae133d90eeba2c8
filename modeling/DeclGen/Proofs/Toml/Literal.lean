import DeclGen.Proofs.Toml.Writer
import DeclGen.Toml.StringLiteral
import Mathlib.Algebra.GroupWithZero.Nat

/-! A literal that was written is read back as its text, whatever characters the text has. -/

namespace DeclGen.Toml

/-- A digit is read back as its value. -/
theorem hexDigit?_digitChar {value : Nat} (small : value < 16) :
    Text.hexDigit? (Nat.digitChar value) = some value := by
  -- Sixteen digits, each checked against the ranges that the reader tests.
  revert value
  decide

/-- A number has as many digits as asked for. -/
theorem length_hexDigits (count number : Nat) : (hexDigits count number).length = count := by
  induction count generalizing number with
  | zero => rfl
  | succ count ih => simp [hexDigits, ih]

/-- All that a number is written with are digits. -/
theorem exists_of_mem_hexDigits {count number : Nat} {c : Char}
    (member : c ∈ hexDigits count number) : ∃ value < 16, c = Nat.digitChar value := by
  induction count generalizing number with
  | zero => simp [hexDigits] at member
  | succ count ih =>
    rw [hexDigits, List.mem_append, List.mem_singleton] at member
    -- A digit is the last one, a remainder of sixteen, or it is one of the number without it.
    rcases member with earlier | rfl
    · exact ih earlier
    · exact ⟨number % 16, Nat.mod_lt _ (by decide), rfl⟩

/-- A number that is not too large is read back from its digits. -/
theorem ofDigits_hexDigits {count number : Nat} (fits : number < 16 ^ count) :
    Text.ofDigits 16 (hexDigits count number) = number := by
  induction count generalizing number with
  | zero =>
    have zero : number = 0 := by simpa using fits
    simp [hexDigits, Text.ofDigits, zero]
  | succ count ih =>
    -- The last digit is the remainder, and those in front of it are the quotient.
    have higher : number / 16 < 16 ^ count := by
      rw [Nat.pow_succ] at fits
      omega
    have digit := hexDigit?_digitChar (Nat.mod_lt number (by decide : 0 < 16))
    have earlier := ih higher
    simp only [Text.ofDigits] at earlier
    simp only [hexDigits, Text.ofDigits, List.foldl_append, List.foldl_cons, List.foldl_nil,
      earlier, digit, Option.getD_some]
    omega

/-- A character is read back from its number. -/
theorem numbered?_hexDigits (c : Char) (rest : List Char) :
    numbered? 8 (hexDigits 8 c.toNat ++ rest) = some c := by
  -- Eight digits have room for every number of a character.
  have taken : (hexDigits 8 c.toNat ++ rest).take 8 = hexDigits 8 c.toNat := by
    rw [List.take_append_of_le_length (by simp [length_hexDigits]), List.take_of_length_le]
    simp [length_hexDigits]
  have number : Text.ofDigits 16 (hexDigits 8 c.toNat) = c.toNat :=
    ofDigits_hexDigits c.val.toNat_lt
  have digits : (hexDigits 8 c.toNat).all (Text.isDigitOf 16) = true := by
    rw [List.all_eq_true]
    intro digit member
    obtain ⟨value, small, rfl⟩ := exists_of_mem_hexDigits member
    simp [Text.isDigitOf, hexDigit?_digitChar small, small]
  have valid : c.toNat.isValidChar := c.valid
  simp only [numbered?, taken, number, digits, length_hexDigits, decide_true, Bool.true_and, valid,
    if_true, Char.ofNat_toNat]

/-- Characters that belong to an escape are left out. -/
theorem unescapeFrom_append (skipped rest : List Char) :
    unescapeFrom skipped.length (skipped ++ rest) = unescapeFrom 0 rest := by
  induction skipped with
  | nil => rfl
  | cons c skipped ih => simpa [unescapeFrom] using ih

/-- The escape of a character stands for it. -/
theorem unescapeFrom_writeChar (c : Char) (rest : List Char) :
    unescapeFrom 0 (writeChar c ++ rest) = (unescapeFrom 0 rest).map (c :: ·) := by
  -- Nine characters belong to the escape, the mark and its eight digits.
  have skipped := unescapeFrom_append (hexDigits 8 c.toNat) rest
  rw [length_hexDigits] at skipped
  simp [writeChar, unescapeFrom, escape?, numbered?_hexDigits, skipped]

/-- Escaped characters stand for themselves. -/
theorem unescape_flatMap_writeChar (text : List Char) :
    unescape (text.flatMap writeChar) = some text := by
  induction text with
  | nil => rfl
  | cons c text ih =>
    rw [unescape] at ih
    rw [unescape, List.flatMap_cons, unescapeFrom_writeChar, ih]
    rfl

/-- A digit is a plain character and ends no literal. -/
theorem plain_digitChar {value : Nat} (small : value < 16) :
    isPlainChar (Nat.digitChar value) = true ∧ Nat.digitChar value ≠ '\n' ∧
      Nat.digitChar value ≠ '"' ∧ Nat.digitChar value ≠ '\\' := by
  revert value
  decide

/-- The body of a literal is plain where all its characters are. -/
theorem isPlainBody_of_all {body : List Char} (plain : ∀ c ∈ body, isPlainChar c = true) :
    isPlainBody body = true := by
  -- The cases with newlines hold vacuously, but their recursion has to be followed.
  fun_induction isPlainBody body with
  | case1 rest ih => exact ih fun c member => plain c (by simp [member])
  | case2 rest ih => exact ih fun c member => plain c (by simp [member])
  | case3 c rest _ _ ih =>
    rw [plain c (by simp), ih fun c member => plain c (by simp [member])]
    rfl
  | case4 => rfl

/-- Escapes are written with plain characters. -/
theorem isPlainBody_flatMap_writeChar (text : List Char) :
    isPlainBody (text.flatMap writeChar) = true := by
  -- An escape has a backslash, its mark and digits, and all of these are plain.
  refine isPlainBody_of_all fun c member => ?_
  obtain ⟨origin, -, written⟩ := List.mem_flatMap.mp member
  simp only [writeChar, List.mem_cons] at written
  rcases written with rfl | rfl | digit
  · rfl
  · rfl
  · obtain ⟨value, small, rfl⟩ := exists_of_mem_hexDigits digit
    exact (plain_digitChar small).1

/-- The closing quote ends a literal. -/
theorem cutLine_quote (rest : List Char) : cutLine '"' true ('"' :: rest) = some ([], rest) := by
  rw [cutLine.eq_def]
  rfl

/-- A backslash takes the character behind it along. -/
theorem cutLine_backslash {c : Char} (sameLine : c ≠ '\n') (rest : List Char) :
    cutLine '"' true ('\\' :: c :: rest) =
      (cutLine '"' true rest).map fun (body, rest) => ('\\' :: c :: body, rest) := by
  rw [cutLine.eq_def]
  simp [sameLine]

/-- Characters that neither end a literal nor escape belong to its body. -/
theorem cutLine_append {front : List Char}
    (inside : ∀ c ∈ front, c ≠ '\n' ∧ c ≠ '"' ∧ c ≠ '\\') (rest : List Char) :
    cutLine '"' true (front ++ rest) =
      (cutLine '"' true rest).map fun (body, rest) => (front ++ body, rest) := by
  induction front with
  | nil => simp
  | cons c front ih =>
    -- None of the three conditions in front of the last branch applies.
    obtain ⟨noNewline, noQuote, noEscape⟩ := inside c (by simp)
    have later := ih fun other member => inside other (by simp [member])
    rw [List.cons_append, cutLine.eq_def]
    simp [noNewline, noQuote, noEscape, later, Function.comp_def]

/-- A literal is cut out up to its closing quote. -/
theorem cutLine_flatMap_writeChar (text rest : List Char) :
    cutLine '"' true (text.flatMap writeChar ++ '"' :: rest) =
      some (text.flatMap writeChar, rest) := by
  induction text with
  | nil => exact cutLine_quote rest
  | cons c text ih =>
    have digits : ∀ digit ∈ hexDigits 8 c.toNat, digit ≠ '\n' ∧ digit ≠ '"' ∧ digit ≠ '\\' := by
      intro digit member
      obtain ⟨value, small, rfl⟩ := exists_of_mem_hexDigits member
      exact (plain_digitChar small).2
    -- The backslash takes the mark along, and the digits are taken one by one.
    rw [List.flatMap_cons, List.append_assoc, writeChar, List.cons_append, List.cons_append,
      cutLine_backslash (by decide), cutLine_append digits, ih]
    rfl

/-- A key that was written is read back. -/
theorem readLineLiteral_writeText (text : String) (rest : List Char) :
    readLineLiteral (writeText text ++ rest) = some (text, rest) := by
  simp [writeText, readLineLiteral, cutLine_flatMap_writeChar, decodeBody,
    isPlainBody_flatMap_writeChar, unescape_flatMap_writeChar]

/-- A text that was written is read back, unless a quote follows it. -/
theorem readLiteral_writeText (text : String) {rest : List Char} (ends : rest.head? ≠ some '"') :
    readLiteral (writeText text ++ rest) = some (text, rest) := by
  have line := readLineLiteral_writeText text rest
  -- The literal is on one line, whatever two or three characters it starts with.
  rw [← line]
  rw [writeText]
  cases characters : text.toList with
  | nil =>
    -- Two quotes in a row do not open a literal of several lines.
    cases rest with
    | nil => rfl
    | cons third rest =>
      have single : third ≠ '"' := by simpa using ends
      simp [readLiteral, single]
  | cons c characters => simp [readLiteral, writeChar]

end DeclGen.Toml
