/-!
Parts of a text and their positions.

A reader of a text works on what is left of it, so a part is given by what is left at its two ends;
the byte positions that diagnostics show are worked out from that.
-/

namespace DeclGen

/-- A range of bytes of a text in UTF-8, the end not included. -/
structure Span where
  /-- The first byte. -/
  start : Nat
  /-- The byte behind the last one. -/
  stop : Nat
  deriving DecidableEq, Repr, Inhabited

/-- The count of bytes in a range. -/
def Span.length (span : Span) : Nat := span.stop - span.start

/-- A value and where it was written. -/
structure Located (α : Type) where
  /-- The value. -/
  value : α
  /-- The bytes it was written in. -/
  span : Span
  deriving DecidableEq, Repr

/-- A part of a text, from one place in it to another. -/
structure Region where
  /-- What is left of the text where the part starts. -/
  start : List Char
  /-- What is left of the text behind the part. -/
  stop : List Char
  deriving DecidableEq, Repr, Inhabited

namespace Text

/-- The count of bytes that a text takes in UTF-8. -/
def utf8Size (text : List Char) : Nat :=
  text.foldl (fun size c => size + c.utf8Size) 0

/-- The position in a text where a given rest of it starts. -/
def offset (source rest : List Char) : Nat :=
  -- A rest is known by its length, so the bytes in front of it are those it lacks.
  utf8Size source - utf8Size rest

/-- What is left of a text behind a count of bytes, if a character starts there or the text ends. -/
def dropBytes? : Nat → List Char → Option (List Char)
  | 0, text => some text
  | _ + 1, [] => none
  | count + 1, c :: rest =>
    if c.utf8Size ≤ count + 1 then dropBytes? (count + 1 - c.utf8Size) rest else none

/-- A byte of a text at which no character starts. -/
structure TornByte where
  /-- The text. -/
  text : List Char
  /-- The position of the byte. -/
  index : Nat
  deriving DecidableEq, Repr

/-- The character that a byte lies in, and the position where it starts. -/
def charAround? (position index : Nat) : List Char → Option (Char × Nat)
  | [] => none
  | c :: rest =>
    if index < position + c.utf8Size then some (c, position)
    else charAround? (position + c.utf8Size) index rest

end Text

namespace Region

/-- The characters of a part. -/
def text (region : Region) : List Char :=
  region.start.take (region.start.length - region.stop.length)

/-- The bytes that a part takes in the text it comes from. -/
def span (source : List Char) (region : Region) : Span :=
  ⟨Text.offset source region.start, Text.offset source region.stop⟩

end Region

end DeclGen
