import DeclGen.Toml.StringLiteral
import Mathlib.Data.List.Infix
import Mathlib.Data.List.TakeWhile

/-!
Literals that stand in a text: what a reader takes for a literal is one on its own.

Whatever follows a literal, it starts and ends with the same quotes, and it is read in the same way
where nothing follows.
-/

namespace DeclGen.Toml

/-- A text that is one string literal from its first character to its last. -/
structure IsLiteral (text : List Char) (value : String) : Prop where
  /-- A reader takes all of the text and decodes it to the value. -/
  read : readLiteral text = some (value, [])
  /-- One quote or three stand at both ends, and what is between them decodes to the value. -/
  quoted : ∃ quote count body, (quote = '"' ∨ quote = '\x27') ∧ (count = 1 ∨ count = 3) ∧
    text = List.replicate count quote ++ body ++ List.replicate count quote ∧
    decodeBody (quote = '"') (if count = 3 then dropNewline body else body) = some value.toList

/-- A literal has its quotes at least. -/
theorem IsLiteral.ne_nil {text : List Char} {value : String} (literal : IsLiteral text value) :
    text ≠ [] := by
  rintro rfl
  simpa [readLiteral, readLineLiteral] using literal.read

/-- The body of a literal of one line ends at its quote, whatever is behind that. -/
theorem cutLine_eq {quote : Char} {escapes : Bool} {text body rest : List Char}
    (cut : cutLine quote escapes text = some (body, rest)) :
    text = body ++ quote :: rest ∧ body.head? ≠ some quote ∧
      cutLine quote escapes (body ++ [quote]) = some (body, []) := by
  fun_induction cutLine quote escapes text generalizing body with
  | case1 => simp at cut
  | case2 later =>
    cases cut
    exact ⟨rfl, by simp, by simp [cutLine]⟩
  | case3 => simp at cut
  | case4 => simp at cut
  | case5 => simp at cut
  | case6 c noQuote noNewline escape d later sameLine ih =>
    -- A backslash takes the character behind it along, be it a quote.
    obtain ⟨⟨inner, _⟩, here, same⟩ := Option.map_eq_some_iff.mp cut
    cases same
    obtain ⟨split, -, alone⟩ := ih here
    refine ⟨by rw [split]; rfl, by simpa using noQuote, ?_⟩
    rw [List.cons_append, List.cons_append, cutLine.eq_def]
    simp [noQuote, noNewline, escape, sameLine, alone]
  | case7 c later noQuote noNewline noEscape ih =>
    -- Any other character stands for itself.
    obtain ⟨⟨inner, _⟩, here, same⟩ := Option.map_eq_some_iff.mp cut
    cases same
    obtain ⟨split, -, alone⟩ := ih here
    refine ⟨by rw [split]; rfl, by simpa using noQuote, ?_⟩
    rw [List.cons_append, cutLine.eq_def]
    simp [noQuote, noNewline, noEscape, alone]

/-- A run of quotes is the same from either side. -/
theorem quotes_append {quote : Char} {run : List Char} (quotes : ∀ c ∈ run, c = quote) :
    run ++ [quote, quote, quote] = [quote, quote, quote] ++ run := by
  have same : run = List.replicate run.length quote := List.eq_replicate_iff.mpr ⟨rfl, quotes⟩
  have three : [quote, quote, quote] = List.replicate 3 quote := rfl
  rw [same, three, List.replicate_append_replicate, List.replicate_append_replicate, Nat.add_comm]

/-- Three quotes end a literal of several lines, with up to two more in front of them. -/
theorem cutBlock_quotes {quote : Char} {extra : List Char} (escapes : Bool)
    (quotes : ∀ c ∈ extra, c = quote) (few : extra.length ≤ 2) :
    cutBlock quote escapes (extra ++ [quote, quote, quote]) = some (extra, []) := by
  have all : extra.takeWhile (fun c => decide (c = quote)) = extra :=
    List.takeWhile_eq_self_iff.mpr fun c member => decide_eq_true (quotes c member)
  -- The three in front are seen first, so the others count as those behind them.
  rw [quotes_append quotes, List.cons_append, List.cons_append, List.singleton_append,
    cutBlock.eq_def]
  simp [List.take_of_length_le few, all]
  omega

/-- Of the quotes in front of a text, up to two are told apart from what is behind them. -/
theorem quotes_of_takeWhile (quote : Char) (text : List Char) :
    let extra := (text.take 2).takeWhile (· = quote)
    (∀ c ∈ extra, c = quote) ∧ extra.length ≤ 2 ∧ text = extra ++ text.drop extra.length := by
  intro extra
  -- What is taken is a prefix of the text, cut to two characters.
  have front : extra <+: text :=
    (List.takeWhile_prefix _).trans (List.take_prefix 2 text)
  refine ⟨fun c member => ?_, ?_, ?_⟩
  · simpa using List.mem_takeWhile_imp member
  · exact (List.takeWhile_prefix _).length_le.trans (List.length_take_le 2 text)
  · exact (List.prefix_iff_eq_append.mp front).symm

/-- The body of a literal of several lines ends at its quotes, and is cut alike on its own. -/
theorem cutBlock_eq {quote : Char} {escapes : Bool} {text body rest : List Char}
    (cut : cutBlock quote escapes text = some (body, rest)) :
    text = body ++ [quote, quote, quote] ++ rest ∧
      cutBlock quote escapes (body ++ [quote, quote, quote]) = some (body, []) := by
  -- Whether three quotes follow is seen within the literal, which ends with as many.
  have ahead : ∀ inner : List Char,
      (inner ++ [quote, quote, quote] ++ rest).take 2 = (inner ++ [quote, quote, quote]).take 2 :=
    fun inner => List.take_append_of_le_length (by simp)
  fun_induction cutBlock quote escapes text generalizing body with
  | case1 => simp at cut
  | case2 c later closes =>
    rename_i extra
    simp only [Bool.and_eq_true, decide_eq_true_eq] at closes
    obtain ⟨rfl, two⟩ := closes
    simp only [Option.some.injEq, Prod.mk.injEq] at cut
    obtain ⟨rfl, rfl⟩ := cut
    -- Behind the first three quotes there may be more, of which up to two belong to the body.
    obtain ⟨quotes, few, front⟩ := quotes_of_takeWhile c (later.drop 2)
    refine ⟨?_, cutBlock_quotes escapes quotes few⟩
    calc c :: later = [c, c, c] ++ later.drop 2 := by
          rw [← List.take_append_drop 2 later, two]
          rfl
      _ = [c, c, c] ++ (extra ++ (later.drop 2).drop extra.length) := by rw [← front]
      _ = extra ++ [c, c, c] ++ later.drop (2 + extra.length) := by
          rw [quotes_append quotes, List.append_assoc, List.drop_drop]
  | case3 => simp at cut
  | case4 c escape d later closes ih =>
    -- A backslash takes the character behind it along, be it a quote.
    obtain ⟨⟨inner, _⟩, here, same⟩ := Option.map_eq_some_iff.mp cut
    cases same
    obtain ⟨split, alone⟩ := ih here
    refine ⟨by rw [split]; rfl, ?_⟩
    have seen := ahead (d :: inner)
    rw [List.cons_append, List.cons_append, ← split] at seen
    rw [seen] at closes
    rw [List.cons_append, List.cons_append, cutBlock.eq_def]
    simp only [if_neg closes, if_pos escape, alone, Option.map_some]
  | case5 c later closes noEscape ih =>
    obtain ⟨⟨inner, _⟩, here, same⟩ := Option.map_eq_some_iff.mp cut
    cases same
    obtain ⟨split, alone⟩ := ih here
    refine ⟨by rw [split]; rfl, ?_⟩
    rw [split, ahead inner] at closes
    rw [List.cons_append, cutBlock.eq_def]
    simp [closes, noEscape, alone]

/-- Where no second quote follows the first one, a literal is one of one line. -/
theorem readLiteral_eq_readLineLiteral {quote : Char} {body : List Char}
    (apart : body.head? ≠ some quote) :
    readLiteral (quote :: (body ++ [quote])) = readLineLiteral (quote :: (body ++ [quote])) := by
  -- Only a second quote could start a longer delimiter, and the body starts with none.
  match body with
  | [] => rfl
  | [second] =>
    have other : second ≠ quote := by simpa using apart
    simp [readLiteral, other]
  | second :: third :: body =>
    have other : second ≠ quote := by simpa using apart
    simp [readLiteral, other]

/-- A literal of one line is a literal on its own. -/
theorem isLiteral_of_readLineLiteral {text rest : List Char} {value : String}
    (read : readLineLiteral text = some (value, rest)) :
    ∃ literal, text = literal ++ rest ∧ IsLiteral literal value := by
  match text with
  | [] => simp [readLineLiteral] at read
  | quote :: inner =>
    by_cases quotes : quote = '"' ∨ quote = '\x27'
    · have marked : (decide (quote = '"') || decide (quote = '\x27')) = true := by
        simpa using quotes
      simp only [readLineLiteral, marked, if_true, Option.bind_eq_bind,
        Option.bind_eq_some_iff] at read
      obtain ⟨⟨body, _⟩, cut, decoded, meaning, same⟩ := read
      cases same
      obtain ⟨split, apart, alone⟩ := cutLine_eq cut
      -- No second quote follows the first one, so the literal alone has one line, too.
      refine ⟨quote :: (body ++ [quote]), by simp [split], ?_, ?_⟩
      · rw [readLiteral_eq_readLineLiteral apart]
        simp [readLineLiteral, marked, alone, meaning]
      · exact ⟨quote, 1, body, quotes, .inl rfl, by simp, by simpa using meaning⟩
    · simp_all [readLineLiteral]

/-- What a reader takes for a literal is one on its own, whatever follows it. -/
theorem isLiteral_of_readLiteral {text rest : List Char} {value : String}
    (read : readLiteral text = some (value, rest)) :
    ∃ literal, text = literal ++ rest ∧ IsLiteral literal value := by
  unfold readLiteral at read
  split at read
  next quote second third inner =>
    by_cases three : (quote = '"' ∨ quote = '\x27') ∧ second = quote ∧ third = quote
    · obtain ⟨quotes, rfl, rfl⟩ := three
      have marked : (decide (third = '"') || decide (third = '\x27')) = true := by
        simpa using quotes
      simp only [marked, Bool.true_and, decide_true, if_true, Option.bind_eq_bind,
        Option.bind_eq_some_iff] at read
      obtain ⟨⟨body, _⟩, cut, decoded, meaning, same⟩ := read
      cases same
      obtain ⟨split, alone⟩ := cutBlock_eq cut
      refine ⟨[third, third, third] ++ body ++ [third, third, third], by simp [split], ?_, ?_⟩
      · simp [readLiteral, marked, alone, meaning]
      · exact ⟨third, 3, body, quotes, .inr rfl, by simp, by simpa using meaning⟩
    -- Fewer than three quotes start a literal of one line.
    · rw [if_neg (by simpa [and_assoc] using three)] at read
      exact isLiteral_of_readLineLiteral read
  next => exact isLiteral_of_readLineLiteral read

end DeclGen.Toml
