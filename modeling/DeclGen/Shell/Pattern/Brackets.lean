import DeclGen.Shell.Pattern.Atom

/-!
Brackets of a pattern, which stand for one of several characters.

Brackets can hold further brackets, and operators between sets of characters.
-/

namespace DeclGen.Pattern

/-- The height of parts in a row; one part alone is not put into anything. -/
def rowHeight : List Nat → Nat
  | [] => 0
  | [height] => height
  | heights => heights.foldl max 0 + 1

/-- The names of groups of ASCII characters. -/
def groupNames : List String :=
  ["alnum", "alpha", "ascii", "blank", "cntrl", "digit", "graph", "lower", "print", "punct",
    "space", "upper", "word", "xdigit"]

/-- Reads a group by its name, behind its first bracket; the answer says if it is turned around. -/
def readGroup : List Char → Option (Bool × List Char)
  | ':' :: rest =>
    let opposite := rest.head? = some '^'
    let rest := if opposite then rest.drop 1 else rest
    let name := rest.takeWhile (· ≠ ':')
    match rest.drop name.length with
    | ':' :: ']' :: rest =>
      if groupNames.contains (String.ofList name) then some (opposite, rest) else none
    | _ => none
  | _ => none

/-- Reads an atom between brackets, where only the backslash has a meaning of its own. -/
def readInside (mode : Mode) : List Char → Option (Atom × List Char)
  | [] => none
  | '\\' :: rest => readEscape mode rest
  | c :: rest => some (.literal c, rest)

/-- Whether two atoms are the ends of a range. -/
def isRange : Atom → Atom → Bool
  | .literal low, .literal high => low ≤ high
  | _, _ => false

/-- Reads an atom or a range between brackets. -/
def readRange (mode : Mode) (text : List Char) : Option (List Char) := do
  let (low, rest) ← readInside mode text
  if !mode.allowsInside low then none else
  match mode.skip rest with
  | '-' :: behind =>
    let next := mode.skip behind
    -- In front of a bracket a dash stands for itself, and two dashes take characters away.
    if next.head? = some ']' || next.head? = some '-' then return '-' :: behind else
    let (high, rest) ← readInside mode next
    if mode.allowsInside high && isRange low high then return rest else none
  | rest => return rest

/-- Counts the dashes at the start of brackets, which stand for themselves, and skips them. -/
def readDashes (mode : Mode) (text : List Char) : Nat × List Char :=
  let next := mode.skip (text.drop 1)
  if text.head? = some '-' && next.length < text.length then
    let (count, rest) := readDashes mode next
    (count + 1, rest)
  else (0, text)
termination_by text.length
decreasing_by grind

/-- Brackets that are open. -/
structure Bracket where
  /-- The heights of what they hold since the last operator. -/
  items : List Nat := []
  /-- The height of what stands in front of that operator, if there is one. -/
  left : Option Nat := none

namespace Bracket

/-- The height of all that brackets hold. -/
def height (bracket : Bracket) : Nat :=
  let right := rowHeight bracket.items
  bracket.left.elim right fun left => max left right + 1

/-- Brackets that hold one thing more. -/
def add (bracket : Bracket) (height : Nat) : Bracket :=
  { bracket with items := height :: bracket.items }

/-- Brackets behind an operator, which takes all that stands in front of it. -/
def operate (bracket : Bracket) : Bracket := { left := some bracket.height }

/-- Reads the start of brackets: a sign that turns them around, then dashes or a bracket. -/
def readStart (mode : Mode) (text : List Char) : Option (Bracket × List Char) :=
  let start := mode.skip text
  let opposite := start.head? = some '^'
  let start := if opposite then mode.skip (start.drop 1) else start
  let (count, rest) := match start with
    | ']' :: rest => (1, rest)
    | _ => readDashes mode start
  if opposite && !mode.unicode || mode.needsFolding && count ≠ 0 then none
  else some ({ items := List.replicate count 0 }, rest)

end Bracket

/--
Reads brackets up to the closing one of the outermost, and gives their height.

The innermost brackets that are open come first.
-/
def readBrackets (mode : Mode) (bracket : Bracket) (outer : List Bracket) (text : List Char) :
    Option (Nat × List Char) :=
  let go (bracket : Bracket) (outer : List Bracket) (rest : List Char) :=
    if rest.length < text.length then readBrackets mode bracket outer rest else none
  match mode.skip text with
  | [] => none
  | ']' :: rest =>
    let height := bracket.height + 1
    match outer with
    | [] => some (height, rest)
    | next :: outer => go (next.add height) outer rest
  | '&' :: '&' :: rest | '-' :: '-' :: rest | '~' :: '~' :: rest => go bracket.operate outer rest
  | '[' :: rest =>
    match readGroup rest with
    | some (opposite, rest) =>
      if opposite && !mode.unicode || mode.needsFolding then none else go (bracket.add 0) outer rest
    | none => do
      let (inner, rest) ← Bracket.readStart mode rest
      go inner (bracket :: outer) rest
  | start => do go (bracket.add 0) outer (← readRange mode start)
termination_by text.length

end DeclGen.Pattern
