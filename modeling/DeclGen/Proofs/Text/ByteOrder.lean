import DeclGen.Text.Lines

/-! Texts are in the same order by their characters and by their bytes in UTF-8. -/

namespace DeclGen.Text

/-- The bytes of a text in UTF-8. -/
def bytes (text : List Char) : List UInt8 :=
  text.flatMap String.utf8EncodeChar

/-- The bytes of the character that has a number. -/
def bytesOf (number : Nat) : List UInt8 :=
  if number ≤ 0x7f then [UInt8.ofNat number]
  else if number ≤ 0x7ff then
    [UInt8.ofNat (number / 64 % 32 + 0xc0), UInt8.ofNat (number % 64 + 0x80)]
  else if number ≤ 0xffff then
    [UInt8.ofNat (number / 4096 % 16 + 0xe0), UInt8.ofNat (number / 64 % 64 + 0x80),
      UInt8.ofNat (number % 64 + 0x80)]
  else
    [UInt8.ofNat (number / 262144 % 8 + 0xf0), UInt8.ofNat (number / 4096 % 64 + 0x80),
      UInt8.ofNat (number / 64 % 64 + 0x80), UInt8.ofNat (number % 64 + 0x80)]

/-- A number is told by its digits to the base of 64, of which the first may be larger. -/
theorem exists_sextets (number : Nat) :
    ∃ a b c d, number = 262144 * a + 4096 * b + 64 * c + d ∧ b < 64 ∧ c < 64 ∧ d < 64 ∧
      number / 262144 = a ∧ number / 4096 % 64 = b ∧ number / 64 % 64 = c ∧ number % 64 = d := by
  refine ⟨number / 262144, number / 4096 % 64, number / 64 % 64, number % 64, ?_⟩
  omega

/-- Of two numbers the lower one has the lower bytes, and no byte behind them counts. -/
theorem bytesOf_lt {low high : Nat} (less : low < high) (bound : high < 0x110000)
    (left right : List UInt8) : bytesOf low ++ left < bytesOf high ++ right := by
  obtain ⟨a, b, c, d, lowIs, _, _, _, lowA, lowB, lowC, lowD⟩ := exists_sextets low
  obtain ⟨a', b', c', d', highIs, _, _, _, highA, highB, highC, highD⟩ := exists_sextets high
  unfold bytesOf
  -- Of two lengths the first bytes decide; at one length the digits do.
  repeat' split
  all_goals
    simp only [List.cons_append, List.nil_append, List.cons_lt_cons_iff, UInt8.lt_iff_toNat_lt,
      ← UInt8.toNat_inj, UInt8.toNat_ofNat', lowA, lowB, lowC, lowD, highA, highB, highC, highD]
    clear lowA lowB lowC lowD highA highB highC highD
    omega

/-- Of two characters the lower one has the lower bytes, and no byte behind them counts. -/
theorem utf8EncodeChar_lt {c d : Char} (less : c < d) (left right : List UInt8) :
    String.utf8EncodeChar c ++ left < String.utf8EncodeChar d ++ right := by
  -- The encodings are compared for all numbers that characters can have.
  have bound : d.val.toNat < 0x110000 := by
    have valid : d.val.toNat.isValidChar := d.valid
    simp only [Nat.isValidChar] at valid
    omega
  exact bytesOf_lt less bound left right

/-- A lower text has lower bytes. -/
theorem bytes_lt_of_lt {left right : List Char} (less : left < right) :
    bytes left < bytes right := by
  -- A text is smaller because it ends first, differs later on or differs right here.
  induction less with
  | nil =>
    rename_i c rest
    obtain ⟨first, more, encoded⟩ :=
      List.exists_cons_of_ne_nil (String.utf8EncodeChar_ne_nil (c := c))
    simp [bytes, encoded]
  | cons less ih => exact List.append_left_lt ih
  | rel less => exact utf8EncodeChar_lt less _ _

/-- Texts are in the order of their bytes. -/
theorem bytes_le_iff (left right : String) :
    bytes left.toList ≤ bytes right.toList ↔ left ≤ right := by
  constructor
  · intro ordered
    -- Both orders are total, so it is enough that a lower text has lower bytes.
    exact String.not_lt.mp fun less => Std.not_lt.mpr ordered (bytes_lt_of_lt less)
  · intro ordered
    rcases Std.le_iff_lt_or_eq.mp ordered with less | rfl
    · exact Std.le_of_lt (bytes_lt_of_lt less)
    · exact Std.le_refl _

end DeclGen.Text
