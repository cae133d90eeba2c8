import DeclGen.Decimal.Binary64

/-!
How similar two words are.

Two words are the more similar the more characters they share at nearly the same places. The count
is worked out in floating-point numbers, each step rounded on its own, so that what is just similar
enough is decided the same way everywhere.
-/

namespace DeclGen.Text

/-- What two words share, up to some place in the first. -/
structure Shared where
  /-- The characters of the first word that were met in the second one, the last one first. -/
  found : List Char := []
  /-- The places in the second word where they were met. -/
  places : List Nat := []

/-- How far from its own place a character is looked for. -/
def reach (first second : List Char) : Nat := max first.length second.length / 2 - 1

/-- Looks for one more character, at a place where none was met yet. -/
def Shared.meet (second : List Char) (reach : Nat) (shared : Shared) (next : Char × Nat) :
    Shared :=
  let (c, place) := next
  match second.zipIdx.find? fun (d, other) =>
      c = d && place ≤ other + reach && other ≤ place + reach && !shared.places.contains other with
  | some (_, other) => ⟨c :: shared.found, other :: shared.places⟩
  | none => shared

/-- How similar two words are, in units of the smallest floating-point number. -/
def similarity (first second : List Char) : Nat :=
  let shared := first.zipIdx.foldl (Shared.meet second (reach first second)) {}
  let met := (second.zipIdx.filter fun (_, place) => shared.places.contains place).map (·.1)
  -- Of the characters that are met in another order, half are counted off.
  let moved := (shared.found.reverse.zip met).countP fun (c, d) => c ≠ d
  let count := met.length
  let shares := Binary64.quotient count first.length + Binary64.quotient count second.length
  let both := Binary64.quotient shares Binary64.unit
  let all := both + Binary64.quotient (count - moved / 2) count
  -- The mean of three shares: of the first word, of the second, and of those in order.
  if count = 0 then 0
  else Binary64.quotient (Binary64.quotient all Binary64.unit) (3 * Binary64.unit)

/-- Puts a word behind all that are at most as similar. -/
def insertBySimilarity (word : Nat × String) (words : List (Nat × String)) : List (Nat × String) :=
  words.takeWhile (·.1 ≤ word.1) ++ word :: words.dropWhile (·.1 ≤ word.1)

/-- The words that are similar enough to be meant by another one, the most similar one last. -/
def similar (word : String) (words : List String) : List String :=
  let measured := words.map fun other => (similarity word.toList other.toList, other)
  ((measured.filter (Binary64.quotient 7 10 < ·.1)).foldl
    (fun sorted next => insertBySimilarity next sorted) []).map (·.2)

end DeclGen.Text
