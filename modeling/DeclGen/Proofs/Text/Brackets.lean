import DeclGen.Proofs.Text.Lines

/-!
Brackets of a text: each sort on its own, or several sorts that have to be nested in each other.

What a text leaves open is what its parts leave open one after the other, and a balanced part leaves
everything around it as it was.
-/

namespace DeclGen.Text

/-- A sort of brackets. -/
inductive Bracket where
  /-- `[` and `]`. -/
  | square
  /-- `(` and `)`. -/
  | round
  deriving DecidableEq, Repr

namespace Bracket

/-- The character that opens a bracket. -/
def opening : Bracket → Char
  | square => '['
  | round => '('

/-- The character that closes a bracket. -/
def closing : Bracket → Char
  | square => ']'
  | round => ')'

/-- The bracket that a character opens. -/
def opened? (c : Char) : Option Bracket := [square, round].find? (·.opening = c)

/-- The bracket that a character closes. -/
def closed? (c : Char) : Option Bracket := [square, round].find? (·.closing = c)

/--
The open brackets behind a character, the innermost first; only some sorts are looked at.

There are none if the character closes another bracket than the innermost one.
-/
def step (sorts nest : List Bracket) (c : Char) : Option (List Bracket) :=
  match opened? c, closed? c with
  | some bracket, _ => some (if bracket ∈ sorts then bracket :: nest else nest)
  | none, some bracket =>
    if bracket ∈ sorts then (if nest.head? = some bracket then some nest.tail else none)
    else some nest
  | none, none => some nest

end Bracket

/-- The brackets of some sorts that are open behind a text, if it closes none that is not open. -/
def openAfter (sorts nest : List Bracket) (text : List Char) : Option (List Bracket) :=
  text.foldlM (Bracket.step sorts) nest

/-- Every bracket of some sorts that a text opens it also closes, and it closes no other. -/
def Balanced (sorts : List Bracket) (text : String) : Prop :=
  openAfter sorts [] text.toList = some []

instance (sorts : List Bracket) (text : String) : Decidable (Balanced sorts text) :=
  inferInstanceAs (Decidable (_ = _))

variable {sorts : List Bracket}

/-- A part of a text starts with the brackets that are open behind the part in front of it. -/
theorem openAfter_append (nest : List Bracket) (front rest : List Char) :
    openAfter sorts nest (front ++ rest) =
      (openAfter sorts nest front).bind fun inner => openAfter sorts inner rest :=
  List.foldlM_append

/-- Brackets further out have no part in what a character does. -/
theorem step_append {nest next : List Bracket} {c : Char}
    (taken : Bracket.step sorts nest c = some next) (outer : List Bracket) :
    Bracket.step sorts (nest ++ outer) c = some (next ++ outer) := by
  unfold Bracket.step at taken ⊢
  split at taken
  · -- An opening character adds a bracket inside, or none.
    rename_i bracket _
    cases taken
    by_cases counted : bracket ∈ sorts <;> simp [counted]
  · -- A closing character looks at the innermost bracket only.
    rename_i bracket _ _
    by_cases counted : bracket ∈ sorts
    · cases nest with
      | nil => simp [counted] at taken
      | cons inner nest => simp_all
    · simp_all
  · simp_all

/-- Brackets further out have no part in what a text leaves open. -/
theorem openAfter_nest_append {nest next : List Bracket} {text : List Char}
    (taken : openAfter sorts nest text = some next) (outer : List Bracket) :
    openAfter sorts (nest ++ outer) text = some (next ++ outer) := by
  -- A step that is taken in the inner nest is taken above any outer one, which it never reaches.
  induction text generalizing nest with
  | nil =>
    cases taken
    rfl
  | cons c rest ih =>
    obtain ⟨inner, here, later⟩ := Option.bind_eq_some_iff.mp taken
    exact Option.bind_eq_some_iff.mpr ⟨inner ++ outer, step_append here outer, ih later⟩

/-- A balanced part of a text leaves open what was open in front of it. -/
theorem openAfter_balanced_append {text : String} (balanced : Balanced sorts text)
    (nest : List Bracket) (rest : List Char) :
    openAfter sorts nest (text.toList ++ rest) = openAfter sorts nest rest := by
  have kept := openAfter_nest_append balanced nest
  rw [List.nil_append] at kept
  rw [openAfter_append, kept]
  rfl

/-- Balanced texts in a row are balanced. -/
theorem Balanced.append {front rest : String} (first : Balanced sorts front)
    (second : Balanced sorts rest) : Balanced sorts (front ++ rest) := by
  rw [Balanced, String.toList_append, openAfter_balanced_append first]
  exact second

/-- A text without brackets is balanced. -/
theorem balanced_of_plain {text : String}
    (plain : text.toList.all (fun c => Bracket.opened? c = none && Bracket.closed? c = none)) :
    Balanced sorts text := by
  unfold Balanced
  generalize text.toList = characters at plain
  induction characters with
  | nil => rfl
  | cons c rest ih =>
    simp only [List.all_cons, Bool.and_eq_true, decide_eq_true_eq] at plain
    obtain ⟨⟨opens, closes⟩, others⟩ := plain
    -- A character that neither opens nor closes anything leaves the nest alone.
    have here : Bracket.step sorts [] c = some [] := by simp [Bracket.step, opens, closes]
    rw [openAfter, List.foldlM_cons, here]
    exact ih (by simpa using others)

/-- The open brackets behind an opening character. -/
def Bracket.enter (bracket : Bracket) (sorts nest : List Bracket) : List Bracket :=
  if bracket ∈ sorts then bracket :: nest else nest

/-- An opening character opens its bracket. -/
theorem openAfter_opening (bracket : Bracket) (nest : List Bracket) (rest : List Char) :
    openAfter sorts nest (bracket.opening :: rest) =
      openAfter sorts (bracket.enter sorts nest) rest := by
  have here : Bracket.step sorts nest bracket.opening = some (bracket.enter sorts nest) := by
    cases bracket <;> rfl
  rw [openAfter, List.foldlM_cons, here]
  rfl

/-- A closing character closes its bracket, if that is the innermost one. -/
theorem openAfter_closing (bracket : Bracket) (nest : List Bracket) (rest : List Char) :
    openAfter sorts (bracket.enter sorts nest) (bracket.closing :: rest) =
      openAfter sorts nest rest := by
  have opens : Bracket.opened? bracket.closing = none := by cases bracket <;> rfl
  have closes : Bracket.closed? bracket.closing = some bracket := by cases bracket <;> rfl
  have here : Bracket.step sorts (bracket.enter sorts nest) bracket.closing = some nest := by
    -- A bracket of another sort is neither entered nor closed.
    by_cases counted : bracket ∈ sorts <;>
      simp [Bracket.step, Bracket.enter, opens, closes, counted]
  rw [openAfter, List.foldlM_cons, here]
  rfl

/-- A balanced text in brackets is balanced. -/
theorem Balanced.enclose {text : String} (balanced : Balanced sorts text) (bracket : Bracket) :
    Balanced sorts
      (String.ofList [bracket.opening] ++ text ++ String.ofList [bracket.closing]) := by
  simp only [Balanced, String.toList_append, String.toList_ofList, List.cons_append,
    List.nil_append]
  rw [openAfter_opening, openAfter_balanced_append balanced, openAfter_closing]
  rfl

/-- The empty text is balanced. -/
theorem balanced_empty : Balanced sorts "" := rfl

/-- A newline is no bracket. -/
theorem balanced_newline : Balanced sorts "\n" :=
  balanced_of_plain (by decide)

/-- Balanced lines are balanced together. -/
theorem balanced_joinLines {lines : List String} (balanced : ∀ line ∈ lines, Balanced sorts line) :
    Balanced sorts (joinLines lines) := by
  induction lines with
  | nil => exact balanced_empty
  | cons first lines ih =>
    have here := balanced first (by simp)
    -- A newline stands only between two lines, so the last one is looked at by itself.
    cases lines with
    | nil => simpa using here
    | cons second lines =>
      rw [joinLines_cons_cons]
      exact (here.append balanced_newline).append (ih fun line member => balanced line
        (List.mem_cons_of_mem _ member))

end DeclGen.Text
