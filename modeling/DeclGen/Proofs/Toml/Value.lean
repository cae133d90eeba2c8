import DeclGen.Proofs.Toml.Literal
import DeclGen.Proofs.Tree
import DeclGen.Toml.Value

/-! Values that were written are read back, however deep they are within the limit. -/

namespace DeclGen.Toml

/-- Whether a character is neither skipped nor the start of a comment. -/
def isSolid (c : Char) : Bool := !isSpace c && c ≠ '#'

/-- Between lines nothing is skipped in front of a solid character. -/
theorem skipTrivia_of_isSolid {c : Char} (solid : isSolid c = true) (rest : List Char) :
    skipTrivia (c :: rest) = c :: rest := by
  simp only [isSolid, isSpace, Bool.and_eq_true, Bool.not_eq_true', Bool.or_eq_false_iff,
    decide_eq_false_iff_not, decide_eq_true_eq] at solid
  obtain ⟨⟨⟨blank, newline⟩, return'⟩, mark⟩ := solid
  -- The three patterns in front of the last one are the newlines.
  rw [skipTrivia, skipFrom]
  · simp [blank, mark]
  · rintro other rfl
    exact absurd rfl return'
  · exact newline

/-- A comma is no trivia. -/
theorem skipTrivia_comma (rest : List Char) : skipTrivia (',' :: rest) = ',' :: rest :=
  skipTrivia_of_isSolid (by decide) rest

/-- Within a line nothing is skipped in front of a solid character. -/
theorem skipBlanks_of_isSolid {c : Char} (solid : isSolid c = true) (rest : List Char) :
    skipBlanks (c :: rest) = c :: rest := by
  have blank : isBlank c = false := by
    simp only [isSolid, isSpace, Bool.and_eq_true, Bool.not_eq_true', Bool.or_eq_false_iff] at solid
    exact solid.1.1.1
  simp [skipBlanks, blank]

/-- Whether a character follows a value that was written. -/
def isSeparator (c : Char) : Bool := c = ',' || c = '\n'

/-- A separator belongs to no word and is no blank. -/
theorem isWordChar_of_isSeparator {c : Char} (separator : isSeparator c = true) :
    isWordChar c = false ∧ isBlank c = false := by
  simp only [isSeparator, Bool.or_eq_true, decide_eq_true_eq] at separator
  rcases separator with rfl | rfl <;> decide

/-- A word ends at a separator. -/
theorem skipWords_append {word : List Char} (inside : ∀ c ∈ word, isWordChar c = true)
    {separator : Char} (ends : isSeparator separator = true) (rest : List Char) :
    skipWords (word ++ separator :: rest) = separator :: rest := by
  obtain ⟨noWord, noBlank⟩ := isWordChar_of_isSeparator ends
  -- No word follows behind the blanks, since there are none and a separator starts no word.
  have dropped : (word ++ separator :: rest).dropWhile isWordChar = separator :: rest := by
    rw [List.dropWhile_append_of_pos inside, List.dropWhile_cons_of_neg (by simp [noWord])]
  have kept : skipBlanks (separator :: rest) = separator :: rest := by
    simp [skipBlanks, noBlank]
  rw [skipWords]
  simp [dropped, kept, continuesWord, noWord]

/-- A word that stands for a value is read up to the separator behind it. -/
theorem readScalar_append {word : List Char} (inside : ∀ c ∈ word, isWordChar c = true)
    {separator : Char} (ends : isSeparator separator = true) (rest : List Char) :
    readScalar (word ++ separator :: rest) =
      (scalar? (.between (word ++ separator :: rest) (separator :: rest)) word).map
        (·, separator :: rest) := by
  have length : (word ++ separator :: rest).length - (separator :: rest).length = word.length := by
    simp
  simp only [readScalar, skipWords_append inside ends, length, List.take_left]

/-- A digit stands for its value. -/
theorem scalar?_digitChar {L : Type} (label : L) {value : Int} (digit : 0 ≤ value ∧ value ≤ 9) :
    scalar? label [Nat.digitChar value.toNat] = some (.integer label value) := by
  -- There are ten digits, so each is read by computation.
  have each : ∀ number < 10,
      (integer? [Nat.digitChar number]).map (·.value.filter fitsWidest) =
        some (some (number : Int)) := by
    decide
  have number := each value.toNat (by omega)
  rw [Int.toNat_of_nonneg digit.1] at number
  obtain ⟨literal, written, valued⟩ := Option.map_eq_some_iff.mp number
  simp [scalar?, written, valued]

/-- What a value is written with does not start with a quote or a bracket of its own. -/
def isBare (c : Char) : Bool := c ≠ '"' && c ≠ '\x27' && c ≠ '[' && c ≠ '{'

/-- Words are read as scalars, whatever may be put into each other. -/
theorem readValue_of_isBare (depth : Nat) {c : Char} (bare : isBare c = true) (rest : List Char) :
    readValue depth (c :: rest) = readScalar (c :: rest) := by
  simp only [isBare, Bool.and_eq_true, decide_eq_true_eq] at bare
  obtain ⟨⟨⟨double, single⟩, bracket⟩, brace⟩ := bare
  -- A literal starts with a quote, and what holds other values with a bracket or a brace.
  have atom : readAtom (c :: rest) = readScalar (c :: rest) := by
    rw [readAtom]
    · rintro other same
      exact double (List.cons.inj same).1
    · rintro other same
      exact single (List.cons.inj same).1
  cases depth with
  | zero => rw [readValue, atom]
  | succ depth =>
    rw [readValue, atom]
    · rintro other same
      exact bracket (List.cons.inj same).1
    · rintro other same
      exact brace (List.cons.inj same).1

/-- A reader gives a value back, up to labels, wherever it is written in front of a separator. -/
def ReadsBack (readItem : Reader Draft) (value : Tree Unit) : Prop :=
  ∀ separator rest, isSeparator separator = true →
    ∃ draft, readItem (write value ++ separator :: rest) = some (draft, separator :: rest) ∧
      draft.erase = value

/-- A text is read back. -/
theorem readsBack_text (depth : Nat) (value : String) :
    ReadsBack (readValue depth) (.text () value) := by
  intro separator rest ends
  -- A third quote would open a literal of several lines.
  have noQuote : (separator :: rest).head? ≠ some '"' := by
    rintro same
    simp only [List.head?_cons, Option.some.injEq] at same
    subst same
    simp [isSeparator] at ends
  have literal := readLiteral_writeText value noQuote
  have atom : readAtom (writeText value ++ separator :: rest) =
      some (.text (.between (writeText value ++ separator :: rest) (separator :: rest)) value,
        separator :: rest) := by
    rw [writeText, List.cons_append] at literal ⊢
    simp only [readAtom, literal]
    rfl
  cases depth with
  | zero => exact ⟨_, atom, rfl⟩
  | succ depth => exact ⟨_, atom, rfl⟩

/-- A truth value reads back at every depth. -/
theorem readsBack_boolean (depth : Nat) (value : Bool) :
    ReadsBack (readValue depth) (.boolean () value) := by
  intro separator rest ends
  have inside : (writeBoolean value).all isWordChar = true := by
    cases value <;> rfl
  -- Either word starts with a letter, and is a value by computation.
  have scalar := readScalar_append (List.all_eq_true.mp inside) ends rest
  cases value with
  | true => exact ⟨_, (readValue_of_isBare depth (by decide) _).trans scalar, rfl⟩
  | false => exact ⟨_, (readValue_of_isBare depth (by decide) _).trans scalar, rfl⟩

/-- A digit is a word of its own. -/
theorem bare_digitChar {value : Nat} (small : value < 10) :
    isWordChar (Nat.digitChar value) = true ∧ isBare (Nat.digitChar value) = true ∧
      isSolid (Nat.digitChar value) = true := by
  revert value
  decide

/-- An integer of one digit is read back. -/
theorem readsBack_integer (depth : Nat) {value : Int} (digit : 0 ≤ value ∧ value ≤ 9) :
    ReadsBack (readValue depth) (.integer () value) := by
  intro separator rest ends
  -- A digit is a word of one character.
  obtain ⟨word, bare, -⟩ := bare_digitChar (by omega : value.toNat < 10)
  have inside : ∀ c ∈ [Nat.digitChar value.toNat], isWordChar c = true := by simp [word]
  have scalar := readScalar_append inside ends rest
  rw [scalar?_digitChar _ digit] at scalar
  exact ⟨_, (readValue_of_isBare depth bare _).trans scalar, rfl⟩

/-- What can be written starts with a solid character, which closes no array. -/
theorem write_eq_cons {depth : Nat} {value : Tree Unit} (writable : Writable depth value) :
    ∃ c rest, write value = c :: rest ∧ isSolid c = true ∧ c ≠ ']' := by
  -- Every form of value starts with a character of its own; four forms are never written.
  cases value with
  | text label value => exact ⟨'"', _, rfl, by decide, by decide⟩
  | boolean label value =>
    cases value with
    | true => exact ⟨'t', _, rfl, by decide, by decide⟩
    | false => exact ⟨'f', _, rfl, by decide, by decide⟩
  | integer label value =>
    have digit : 0 ≤ value ∧ value ≤ 9 := by cases depth <;> exact writable
    have closing : ∀ number < 10, Nat.digitChar number ≠ ']' := by decide
    exact ⟨_, [], rfl, (bare_digitChar (by omega)).2.2, closing _ (by omega)⟩
  | sequence label items => exact ⟨'[', _, rfl, by decide, by decide⟩
  | table label fields => exact ⟨'{', _, rfl, by decide, by decide⟩
  | null label => cases depth <;> exact writable.elim
  | float label value => cases depth <;> exact writable.elim
  | valueless label => cases depth <;> exact writable.elim
  | moment label => cases depth <;> exact writable.elim

/-- A bracket that closes ends the items. -/
theorem readItems_closing (readItem : Reader Draft) (rest : List Char) :
    readItems readItem (']' :: rest) = some ([], rest) := by
  rw [readItems, skipTrivia_of_isSolid (by decide)]
  rfl

/-- An item with a comma behind it is one item more than what follows the comma. -/
theorem readItems_comma {readItem : Reader Draft} {c : Char} {tail next : List Char} {item : Draft}
    (solid : isSolid c = true) (noEnd : c ≠ ']')
    (here : readItem (c :: tail) = some (item, ',' :: next))
    (shorter : next.length < (c :: tail).length) :
    readItems readItem (c :: tail) =
      (readItems readItem next).map fun (items, rest) => (item :: items, rest) := by
  rw [readItems, skipTrivia_of_isSolid solid]
  -- The first pattern would need the closing bracket at once.
  split
  · rename_i same
    exact absurd (List.cons.inj same).1 noEnd
  · simp only [here, Bind.bind, Option.bind_some, skipTrivia_comma, if_pos shorter]
    cases readItems readItem next <;> rfl

/-- The items of an array are read back one after the other. -/
theorem readItems_writeItems {depth : Nat} {readItem : Reader Draft} {items : List (Tree Unit)}
    (writable : ∀ item ∈ items, Writable depth item)
    (each : ∀ item ∈ items, ReadsBack readItem item) (rest : List Char) :
    ∃ drafts, readItems readItem (writeItems items ++ ']' :: rest) = some (drafts, rest) ∧
      drafts.map Tree.erase = items := by
  induction items with
  | nil => exact ⟨[], readItems_closing readItem rest, rfl⟩
  | cons item items ih =>
    -- The reader stops at the comma, behind which the other items follow.
    obtain ⟨drafts, later, erased⟩ := ih (fun other member => writable other (by simp [member]))
      (fun other member => each other (by simp [member]))
    obtain ⟨draft, here, same⟩ :=
      each item (by simp) ',' (writeItems items ++ ']' :: rest) (by decide)
    obtain ⟨c, tail, start, solid, noEnd⟩ := write_eq_cons (writable item (by simp))
    refine ⟨draft :: drafts, ?_, by simp [same, erased]⟩
    rw [writeItems, List.append_assoc, List.cons_append, start, List.cons_append]
    rw [start, List.cons_append] at here
    rw [readItems_comma solid noEnd here (by simp; omega), later]
    rfl

end DeclGen.Toml
