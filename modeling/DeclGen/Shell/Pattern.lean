import DeclGen.Shell.Pattern.Brackets

/-!
Patterns that a filter may compare values with.

No event is compared with a pattern, so it only matters whether a text is one: whether it can be
read, and whether its parts are not put too deep in each other.
-/

namespace DeclGen.Pattern

/-- A part of a pattern that stands in a row with others. -/
inductive Part where
  /-- Flags, which stand for nothing that could be repeated. -/
  | flags
  /-- Something that can be repeated, by its height. -/
  | item (height : Nat)
  deriving DecidableEq, Repr

/-- The height of a part. -/
def Part.height : Part → Nat
  | .flags => 0
  | .item height => height

/-- Parentheses that are open, or the whole pattern. -/
structure Scope where
  /-- The flags in force. -/
  mode : Mode := {}
  /-- The heights of the alternatives that are complete. -/
  alternatives : List Nat := []
  /-- The parts of the alternative that is read, the last one first. -/
  parts : List Part := []

namespace Scope

/-- The height of the alternative that is read. -/
def rowHeight (scope : Scope) : Nat := Pattern.rowHeight (scope.parts.map Part.height)

/-- The height of all alternatives. -/
def height (scope : Scope) : Nat := Pattern.rowHeight (scope.rowHeight :: scope.alternatives)

/-- The scope with one part more. -/
def add (scope : Scope) (part : Part) : Scope := { scope with parts := part :: scope.parts }

/-- The scope with the next alternative begun. -/
def alternate (scope : Scope) : Scope :=
  { scope with alternatives := scope.rowHeight :: scope.alternatives, parts := [] }

/-- Repeats the last part, if there is one that can be repeated. -/
def repeatLast (scope : Scope) : Option Scope :=
  match scope.parts with
  -- A repetition is put around what it repeats, and so adds to its height.
  | .item height :: rest => some { scope with parts := .item (height + 1) :: rest }
  | _ => none

end Scope

/-- What is known about a pattern up to some place in it. -/
structure Progress where
  /-- The innermost scope. -/
  scope : Scope := {}
  /-- The scopes around it, from the inside. -/
  outer : List Scope := []
  /-- The names of parentheses. -/
  names : List (List Char) := []

namespace Progress

/-- The flags that a pattern can set. -/
def flags : List Char := ['i', 'm', 's', 'U', 'u', 'R', 'x']

/-- Whether a word is made of flags, none of them given twice, with at most one minus between. -/
def areFlags (word : List Char) : Bool :=
  word.all (fun c => c = '-' || flags.contains c) && word.Nodup && word.getLast? ≠ some '-'

/-- Whether a word is the name of parentheses. -/
def isName (word : List Char) : Bool :=
  word.head?.any (fun c => c = '_' || Text.isLetter c)
    && word.all fun c => ['_', '.', '[', ']'].contains c || Text.isLetterOrNumber c

/-- The flags in force. -/
def mode (progress : Progress) : Mode := progress.scope.mode

/-- Goes on with another innermost scope. -/
def within (progress : Progress) (scope : Scope) : Progress := { progress with scope }

/-- Goes on behind something that can be repeated, by its height. -/
def past (progress : Progress) (height : Nat) (rest : List Char) : Progress × List Char :=
  (progress.within (progress.scope.add (.item height)), rest)

/-- Opens parentheses. -/
def enter (progress : Progress) (mode : Mode) : Progress :=
  { progress with scope := { mode }, outer := progress.scope :: progress.outer }

/-- Closes parentheses, if any are open; the flags outside are in force again. -/
def leave (progress : Progress) : Option Progress :=
  match progress.outer with
  | [] => none
  | scope :: outer =>
    some { progress with scope := scope.add (.item (progress.scope.height + 1)), outer }

/-- Opens parentheses with a name, which no others may have. -/
def enterNamed (progress : Progress) (text : List Char) : Option (Progress × List Char) :=
  let name := text.takeWhile (· ≠ '>')
  match text.drop name.length with
  | '>' :: rest =>
    if isName name && !progress.names.contains name then
      some ({ progress.enter progress.mode with names := name :: progress.names }, rest)
    else none
  | _ => none

/-- Sets flags, for the rest of the parentheses around them or for new ones. -/
def setFlags (progress : Progress) (text : List Char) : Option (Progress × List Char) :=
  let word := text.takeWhile fun c => c ≠ ':' && c ≠ ')'
  let mode := progress.mode.apply word
  if !areFlags word then none
  else match text.drop word.length with
    -- Behind a colon the flags hold for new parentheses, else for the rest of these.
    | ':' :: rest => some (progress.enter mode, rest)
    | ')' :: rest =>
      if word = [] then none
      else some (progress.within { progress.scope.add .flags with mode }, rest)
    | _ => none

/-- Reads what stands behind an opening parenthesis. -/
def openParenthesis (progress : Progress) (text : List Char) : Option (Progress × List Char) :=
  match progress.mode.skip text with
  | '?' :: 'P' :: '<' :: rest | '?' :: '<' :: rest => progress.enterNamed rest
  | '?' :: rest => progress.setFlags rest
  | rest => some (progress.enter progress.mode, rest)

/-- Reads one part of a pattern, by its first character. -/
def step (progress : Progress) (c : Char) (rest : List Char) : Option (Progress × List Char) :=
  match c with
  | '(' => progress.openParenthesis rest
  | ')' => progress.leave.map (·, rest)
  | '|' => some (progress.within progress.scope.alternate, rest)
  | '[' => do
    let (bracket, rest) ← Bracket.readStart progress.mode rest
    let (height, rest) ← readBrackets progress.mode bracket [] rest
    return progress.past height rest
  | '?' | '*' | '+' => do
    -- A question mark right behind belongs to the same repetition.
    let rest := if rest.head? = some '?' then rest.drop 1 else rest
    return (progress.within (← progress.scope.repeatLast), rest)
  -- A count of repetitions would end with a brace, which ends the whole field.
  | '{' => none
  | '.' => if progress.mode.unicode then some (progress.past 0 rest) else none
  | '^' | '$' => some (progress.past 0 rest)
  | '\\' => do
    let (atom, rest) ← readEscape progress.mode rest
    if progress.mode.allows atom then return progress.past 0 rest else none
  | c => if progress.mode.allows (.literal c) then some (progress.past 0 rest) else none

/-- Reads a pattern to its end. -/
def run (progress : Progress) (text : List Char) : Option Progress :=
  match progress.mode.skip text with
  | [] => some progress
  | c :: start =>
    match progress.step c start with
    | none => none
    | some (next, rest) => if rest.length < text.length then next.run rest else none
termination_by text.length

end Progress

/-- The greatest height that a pattern may have. -/
def heightLimit : Nat := 250

/-- Whether a text is a pattern. -/
def isPattern (text : List Char) : Bool :=
  (Progress.run {} text).any fun progress =>
    progress.outer.isEmpty && progress.scope.height ≤ heightLimit

/-- Whether a text is a number, with or without a point and an exponent. -/
def isNumber (text : List Char) : Bool :=
  let mantissa := text.takeWhile fun c => c ≠ 'e' && c ≠ 'E'
  let power := text.drop (mantissa.length + 1)
  let power := if power.head? = some '+' || power.head? = some '-' then power.drop 1 else power
  let fraction := mantissa.dropWhile Char.isDigit
  -- A number has a digit at least, and behind the mark of an exponent one more.
  ["inf", "infinity", "nan"].contains (String.ofList (text.map Char.toLower))
    || (mantissa.any Char.isDigit && fraction.head?.all (· = '.')
      && (fraction.drop 1).all Char.isDigit
      && (mantissa.length = text.length || (power ≠ [] && power.all Char.isDigit)))

/-- Whether a text can be compared with values; a plus is no pattern, and may lead a number. -/
def isComparable (text : List Char) : Bool :=
  isPattern text || (text.head? = some '+' && isNumber (text.drop 1))

end DeclGen.Pattern
