import DeclGen.Proofs.Toml.Fields
import DeclGen.Toml.Value

/-!
Readers of keys and values stay in the text: what they leave is a rest, and all that they read is
written in front of it.
-/

namespace DeclGen.Toml

/-- A reader that, from any rest of a source, goes on to a later one and finds what is good. -/
def Stays {α : Type} (source : List Char) (good : α → Prop)
    (read : List Char → Option (α × List Char)) : Prop :=
  ∀ text value rest, text <:+ source → read text = some (value, rest) → rest <:+ text ∧ good value

/-- Behind blanks there is a rest of the text. -/
theorem skipBlanks_suffix (text : List Char) : skipBlanks text <:+ text :=
  List.dropWhile_suffix isBlank

/-- Behind blanks, newlines and comments there is a rest of the text. -/
theorem skipTrivia_suffix (text : List Char) : skipTrivia text <:+ text := by
  have general : ∀ (inComment : Bool) (text : List Char), skipFrom inComment text <:+ text := by
    intro inComment text
    -- Characters are skipped one by one, or two where they make a newline.
    fun_induction skipFrom inComment text with
    | case1 => exact List.suffix_rfl
    | case2 inComment rest ih =>
      exact (ih.trans (List.suffix_cons _ _)).trans (List.suffix_cons _ _)
    | case3 inComment rest ih => exact ih.trans (List.suffix_cons _ _)
    | case4 inComment c rest _ _ blank ih => exact ih.trans (List.suffix_cons _ _)
    | case5 inComment c rest _ _ solid comment ih => exact ih.trans (List.suffix_cons _ _)
    | case6 => exact List.suffix_rfl
  exact general false text

/-- Behind bare words there is a rest of the text. -/
theorem skipWords_suffix (text : List Char) : skipWords text <:+ text := by
  fun_induction skipWords text with
  | case1 text rest next shorter continues ih =>
    -- The words go on behind blanks.
    exact (ih.trans (skipBlanks_suffix _)).trans (List.dropWhile_suffix _)
  | case2 text => exact List.dropWhile_suffix _
  | case3 text => exact List.dropWhile_suffix _

variable {source : List Char}

/-- What stands between two rests of a source is within it. -/
theorem between_within {text rest : List Char} (inside : text <:+ source) (behind : rest <:+ text) :
    (Place.between text rest).region.Within source :=
  ⟨inside, behind⟩

/-- A key is written where it is read. -/
theorem stays_readKey : Stays source (KeyIn source) readKey := by
  intro text key rest inside read
  match text with
  | [] => simp [readKey] at read
  | c :: later =>
    rw [readKey] at read
    split at read
    · -- A quoted key is a literal of one line.
      obtain ⟨⟨name, stop⟩, literal, done⟩ := Option.bind_eq_some_iff.mp read
      cases done
      obtain ⟨front, split, -⟩ := isLiteral_of_readLineLiteral literal
      have behind : rest <:+ c :: later := ⟨front, split.symm⟩
      exact ⟨behind, between_within inside behind⟩
    · simp only at read
      split at read
      · contradiction
      · cases read
        exact ⟨List.drop_suffix _ _, between_within inside (List.drop_suffix _ _)⟩

/-- The keys of a path are written where they are read. -/
theorem stays_readKeys : Stays source (PathIn source) readKeys := by
  intro text
  -- Behind a dot the text is shorter, and what is read of it is a path again.
  induction short : text.length using Nat.strong_induction_on generalizing text with
  | _ length ih =>
    intro path rest inside read
    subst short
    rw [readKeys] at read
    obtain ⟨⟨key, stop⟩, first, read⟩ := Option.bind_eq_some_iff.mp read
    obtain ⟨behind, here⟩ := stays_readKey text key stop inside first
    have blanks := (skipBlanks_suffix stop).trans behind
    simp only at read
    split at read
    next next dotted =>
      have dot : next <:+ text := by
        rw [dotted] at blanks
        exact (List.suffix_cons _ _).trans blanks
      have after := (skipBlanks_suffix next).trans dot
      split at read
      next shorter =>
        obtain ⟨⟨others, last⟩, more, done⟩ := Option.bind_eq_some_iff.mp read
        cases done
        obtain ⟨end_, there⟩ := ih _ shorter _ rfl others last (after.trans inside) more
        obtain ⟨parents, final⟩ := pathIn_iff.mp there
        exact ⟨end_.trans after, pathIn_iff.mpr ⟨List.forall_mem_cons.mpr ⟨here, parents⟩, final⟩⟩
      next => contradiction
    next =>
      cases read
      exact ⟨blanks, pathIn_iff.mpr ⟨List.forall_mem_nil _, here⟩⟩

/-- A path that is not too long is read like any other. -/
theorem stays_readKeyPath : Stays source (PathIn source) readKeyPath := by
  intro text path rest inside read
  exact stays_readKeys text path rest inside (Option.filter_eq_some_iff.mp read).1

/-- Bare words stand for no text, so all there is to them is their place. -/
theorem draftIn_of_scalar? {place : Place} {words : List Char} {draft : Draft}
    (here : place.region.Within source) (read : scalar? place words = some draft) :
    DraftIn source draft := by
  unfold scalar? at read
  -- A word, a number or a moment takes the whole region, whatever its value is.
  split at read
  · cases read
    exact .boolean here
  split at read
  · cases read
    exact .boolean here
  split at read
  next literal _ =>
    cases read
    cases literal.value.filter fitsWidest with
    | none => exact .valueless here
    | some value => exact .integer here
  next literal _ _ =>
    cases read
    cases literal.value with
    | none => exact .valueless here
    | some value => exact .float here
  next =>
    split at read
    · cases read
      exact .moment here
    · contradiction

/-- A literal or a bare word is written where it is read. -/
theorem stays_readAtom : Stays source (DraftIn source) readAtom := by
  intro text draft rest inside read
  have literal : ∀ {value : String}, readLiteral text = some (value, rest) →
      rest <:+ text ∧ DraftIn source (.text (.between text rest) value) := by
    intro value taken
    obtain ⟨front, split, whole⟩ := isLiteral_of_readLiteral taken
    have behind : rest <:+ text := ⟨front, split.symm⟩
    -- The text of the region is just what stands in front of the rest.
    have cut : (Place.between text rest).region.text = front := by
      simp [Place.between, Region.text, split]
    exact ⟨behind, .text (between_within inside behind) (cut ▸ whole)⟩
  have scalar : readScalar text = some (draft, rest) → rest <:+ text ∧ DraftIn source draft := by
    intro taken
    obtain ⟨value, words, same⟩ := Option.map_eq_some_iff.mp taken
    cases same
    have behind := skipWords_suffix text
    exact ⟨behind, draftIn_of_scalar? (between_within inside behind) words⟩
  unfold readAtom at read
  split at read
  · obtain ⟨⟨value, stop⟩, taken, done⟩ := Option.bind_eq_some_iff.mp read
    cases done
    exact literal taken
  · obtain ⟨⟨value, stop⟩, taken, done⟩ := Option.bind_eq_some_iff.mp read
    cases done
    exact literal taken
  · exact scalar read

/--
A reader of values up to a closing character, with commas between them.

Whatever it takes is nothing more than that character, or a value in front of it or of a comma.
-/
def Separated {α : Type} (closing : Char) (one : Reader α) (many : Reader (List α)) : Prop :=
  ∀ text values rest, many text = some (values, rest) →
    (skipTrivia text = closing :: rest ∧ values = []) ∨
      ∃ value stop, one (skipTrivia text) = some (value, stop) ∧
        ((skipTrivia stop = closing :: rest ∧ values = [value]) ∨
          ∃ next others, skipTrivia stop = ',' :: next ∧ next.length < text.length ∧
            many next = some (others, rest) ∧ values = value :: others)

/-- Values with commas between them are good if each of them is. -/
theorem stays_of_separated {α : Type} {closing : Char} {one : Reader α} {many : Reader (List α)}
    {good : α → Prop} (separated : Separated closing one many) (each : Stays source good one) :
    Stays source (fun values => ∀ value ∈ values, good value) many := by
  intro text
  -- Behind a comma the text is shorter, and holds the other values.
  induction short : text.length using Nat.strong_induction_on generalizing text with
  | _ length ih =>
    intro values rest inside read
    subst short
    have start := skipTrivia_suffix text
    rcases separated text values rest read with ⟨closed, rfl⟩ | ⟨value, stop, first, read⟩
    · rw [closed] at start
      exact ⟨(List.suffix_cons _ _).trans start, List.forall_mem_nil _⟩
    obtain ⟨behind, here⟩ := each _ value stop (start.trans inside) first
    have after := (skipTrivia_suffix stop).trans (behind.trans start)
    rcases read with ⟨closed, rfl⟩ | ⟨next, others, comma, shorter, more, rfl⟩
    · rw [closed] at after
      exact ⟨(List.suffix_cons _ _).trans after, List.forall_mem_singleton.mpr here⟩
    · rw [comma] at after
      have later := (List.suffix_cons _ _).trans after
      obtain ⟨last, there⟩ := ih _ shorter next rfl others rest (later.trans inside) more
      exact ⟨last.trans later, List.forall_mem_cons.mpr ⟨here, there⟩⟩

/-- The items of an array have commas between them. -/
theorem separated_readItems (readItem : Reader Draft) :
    Separated ']' readItem (readItems readItem) := by
  intro text values rest read
  rw [readItems] at read
  -- The row closes at once, or there is an item and then a closing bracket or a comma.
  split at read
  next closed =>
    cases read
    exact .inl ⟨closed, rfl⟩
  next =>
    obtain ⟨⟨item, stop⟩, first, read⟩ := Option.bind_eq_some_iff.mp read
    refine .inr ⟨item, stop, first, ?_⟩
    simp only at read
    split at read
    next closed =>
      cases read
      exact .inl ⟨closed, rfl⟩
    next next comma =>
      split at read
      next shorter =>
        obtain ⟨⟨others, last⟩, more, done⟩ := Option.bind_eq_some_iff.mp read
        cases done
        exact .inr ⟨next, others, comma, shorter, more, rfl⟩
      next => contradiction
    next => contradiction

/-- The pairs of an inline table have commas between them. -/
theorem separated_readPairs (readItem : Reader Draft) :
    Separated '}' (readPair skipTrivia readItem) (readPairs readItem) := by
  intro text values rest read
  rw [readPairs] at read
  -- The table closes at once, or there is a pair and then a closing brace or a comma.
  split at read
  next closed =>
    cases read
    exact .inl ⟨closed, rfl⟩
  next =>
    obtain ⟨⟨pair, stop⟩, first, read⟩ := Option.bind_eq_some_iff.mp read
    refine .inr ⟨pair, stop, first, ?_⟩
    simp only at read
    split at read
    next closed =>
      cases read
      exact .inl ⟨closed, rfl⟩
    next next comma =>
      split at read
      next shorter =>
        obtain ⟨⟨others, last⟩, more, done⟩ := Option.bind_eq_some_iff.mp read
        cases done
        exact .inr ⟨next, others, comma, shorter, more, rfl⟩
      next => contradiction
    next => contradiction

/-- A pair is written where its path and its value are read. -/
theorem stays_readPair {skip : List Char → List Char} {readItem : Reader Draft}
    (skips : ∀ text, skip text <:+ text) (items : Stays source (DraftIn source) readItem) :
    Stays source (fun pair => PathIn source pair.1 ∧ DraftIn source pair.2)
      (readPair skip readItem) := by
  intro text pair rest inside read
  obtain ⟨⟨path, stop⟩, keys, read⟩ := Option.bind_eq_some_iff.mp read
  obtain ⟨behind, here⟩ := stays_readKeyPath text path stop inside keys
  -- What is left behind the path starts with the sign, and the value stands behind that.
  have sign := (skips stop).trans behind
  simp only at read
  split at read
  next next equals =>
    rw [equals] at sign
    have after := (skips next).trans ((List.suffix_cons _ _).trans sign)
    obtain ⟨⟨value, last⟩, taken, done⟩ := Option.bind_eq_some_iff.mp read
    cases done
    obtain ⟨end_, there⟩ := items _ value last (after.trans inside) taken
    exact ⟨end_.trans after, here, there⟩
  next => contradiction

/-- The fields of an inline table are written where its pairs are. -/
theorem fieldsIn_of_collect {pairs : List (KeyPath × Draft)} {fields : Fields}
    (each : ∀ pair ∈ pairs, PathIn source pair.1 ∧ DraftIn source pair.2)
    (collected : collect pairs = some fields) : FieldsIn source fields := by
  refine keeps_of_foldlM (fun pair member fields next within done => ?_)
    (List.forall_mem_nil _) collected
  obtain ⟨keys, value⟩ := each pair member
  exact adds_assign keys value _ _ _ within done

/-- A value of any depth is written where it is read. -/
theorem stays_readValue (depth : Nat) : Stays source (DraftIn source) (readValue depth) := by
  -- With no depth left only an atom is read; a row or a table reads its parts one level down.
  induction depth with
  | zero => exact stays_readAtom
  | succ depth ih =>
    intro text draft rest inside read
    rw [readValue.eq_def] at read
    simp only at read
    split at read
    next later =>
      obtain ⟨⟨items, stop⟩, taken, done⟩ := Option.bind_eq_some_iff.mp read
      cases done
      have bracket := (List.suffix_cons '[' later).trans inside
      obtain ⟨behind, there⟩ :=
        stays_of_separated (separated_readItems _) ih later items stop bracket taken
      have whole := behind.trans (List.suffix_cons '[' later)
      exact ⟨whole, draftIn_sequence_iff.mpr ⟨between_within inside whole, there⟩⟩
    next later =>
      obtain ⟨⟨pairs, stop⟩, taken, done⟩ := Option.bind_eq_some_iff.mp read
      obtain ⟨fields, collected, same⟩ := Option.bind_eq_some_iff.mp done
      cases same
      have brace := (List.suffix_cons '{' later).trans inside
      obtain ⟨behind, there⟩ := stays_of_separated (separated_readPairs _)
        (stays_readPair skipTrivia_suffix ih) later pairs stop brace taken
      have whole := behind.trans (List.suffix_cons '{' later)
      exact ⟨whole, draftIn_table_iff.mpr
        ⟨between_within inside whole, fieldsIn_of_collect there collected⟩⟩
    next => exact stays_readAtom text draft rest inside read

end DeclGen.Toml
