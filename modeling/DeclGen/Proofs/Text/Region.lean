import DeclGen.Text.Region
import Mathlib.Data.List.Infix

/-!
Positions of parts of a text: a part between two rests of the text stands in the bytes of its span.

A rest of a text is a suffix of it, so the bytes in front of the rest are whole characters.
-/

namespace DeclGen

/-- A range of bytes that lies in a text, and at whose ends characters start or the text ends. -/
structure Span.Within (span : Span) (source : String) : Prop where
  /-- The end does not come before the start. -/
  ordered : span.start ≤ span.stop
  /-- The range ends with the text or before it. -/
  inside : span.stop ≤ source.utf8ByteSize
  /-- No character is torn at the start. -/
  startsWhole : String.Pos.Raw.IsValid source ⟨span.start⟩
  /-- No character is torn at the end. -/
  stopsWhole : String.Pos.Raw.IsValid source ⟨span.stop⟩

/-- A part that lies between two rests of a text. -/
structure Region.Within (region : Region) (source : List Char) : Prop where
  /-- The part starts with a rest of the text. -/
  start : region.start <:+ source
  /-- What is behind the part is a rest of that. -/
  stop : region.stop <:+ region.start

namespace Text

/-- The bytes of a text are counted character by character. -/
theorem utf8Size_eq (text : List Char) : utf8Size text = (String.ofList text).utf8ByteSize := by
  -- The sum is taken from the left, so the induction needs it from any start.
  have general : ∀ (text : List Char) (size : Nat),
      text.foldl (fun size c => size + c.utf8Size) size =
        size + (String.ofList text).utf8ByteSize := by
    intro text
    induction text with
    | nil => simp
    | cons c rest ih =>
      intro size
      rw [List.foldl_cons, ih, ← List.singleton_append, String.ofList_append,
        String.utf8ByteSize_append, ← String.singleton_eq_ofList, String.utf8ByteSize_singleton]
      omega
  simpa [utf8Size] using general text 0

/-- A rest of a text is as far from its start as the characters in front take bytes. -/
theorem offset_append (front rest : List Char) :
    offset (front ++ rest) rest = (String.ofList front).utf8ByteSize := by
  simp [offset, utf8Size_eq, String.ofList_append, String.utf8ByteSize_append]

end Text

namespace Region.Within

variable {region : Region} {source : String}

/-- A text is what is in front of a part, the part, and what is behind it. -/
theorem exists_append (within : region.Within source.toList) :
    ∃ front, source = String.ofList front ++ String.ofList region.text ++
        String.ofList region.stop ∧
      region.span source.toList =
        ⟨(String.ofList front).utf8ByteSize,
          (String.ofList front ++ String.ofList region.text).utf8ByteSize⟩ := by
  obtain ⟨front, split⟩ := within.start
  obtain ⟨part, rest⟩ := within.stop
  -- The text of a part is what its start has in front of its stop.
  have text : region.text = part := by simp [Region.text, ← rest]
  refine ⟨front, ?_, ?_⟩
  · apply String.toList_injective
    simp [text, rest, split]
  · have whole : source.toList = front ++ part ++ region.stop := by
      rw [List.append_assoc, rest, split]
    rw [text, ← String.ofList_append, Region.span]
    congr 1
    · rw [← split, Text.offset_append]
    · rw [whole, Text.offset_append]

/-- The span of a part lies in the text. -/
theorem span (within : region.Within source.toList) :
    (region.span source.toList).Within source := by
  obtain ⟨front, whole, bytes⟩ := within.exists_append
  rw [bytes]
  -- What stands in front of each end is a whole text, so no character is torn there.
  refine ⟨?_, ?_, ?_, ?_⟩
  · simp [String.utf8ByteSize_append]
  · rw [whole]
    simp [String.utf8ByteSize_append]
  · rw [String.Pos.Raw.isValid_iff_exists_append]
    exact ⟨_, _, by rw [whole, String.append_assoc], rfl⟩
  · rw [String.Pos.Raw.isValid_iff_exists_append]
    exact ⟨_, _, whole, rfl⟩

/-- A part that has characters takes at least one byte. -/
theorem span_lt (within : region.Within source.toList) (nonempty : region.text ≠ []) :
    (region.span source.toList).start < (region.span source.toList).stop := by
  obtain ⟨front, -, bytes⟩ := within.exists_append
  -- Every character takes at least one byte.
  have some : (String.ofList region.text).utf8ByteSize ≠ 0 := by
    rw [Ne, String.utf8ByteSize_eq_zero_iff, String.ofList_eq_empty_iff]
    exact nonempty
  rw [bytes]
  simp only [String.utf8ByteSize_append]
  omega

/-- The bytes in the span of a part are those of its text. -/
theorem extract (within : region.Within source.toList) :
    source.toByteArray.extract (region.span source.toList).start (region.span source.toList).stop =
      (String.ofList region.text).toByteArray := by
  obtain ⟨front, whole, bytes⟩ := within.exists_append
  rw [bytes, whole]
  -- What is behind the part adds nothing, and what is in front of it is left out.
  simp only [String.toByteArray_append, ← String.size_toByteArray]
  rw [ByteArray.extract_append, ByteArray.extract_append_eq_right rfl ByteArray.size_append]
  simp

end Region.Within

end DeclGen
