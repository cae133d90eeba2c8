import DeclGen.Toml.Fields
import DeclGen.Toml.Scalar

/-! Values of a document: literals, bare words, arrays and inline tables. -/

namespace DeclGen.Toml

/-- Reads what may stand in one place of a document: a literal or a bare word. -/
def readAtom (text : List Char) : Option (Draft × List Char) :=
  match text with
  | '"' :: _ | '\x27' :: _ => do
    let (value, rest) ← readLiteral text
    return (.text (.between text rest) value, rest)
  | _ => readScalar text

/-- Reads the items of an array up to its closing bracket; a comma may follow the last one. -/
def readItems (readItem : Reader Draft) (text : List Char) : Option (List Draft × List Char) :=
  match skipTrivia text with
  | ']' :: rest => some ([], rest)
  | start => do
    let (item, rest) ← readItem start
    match skipTrivia rest with
    | ']' :: rest => some ([item], rest)
    | ',' :: next =>
      -- The comma took a character at least, so what follows is shorter.
      if next.length < text.length then do
        let (items, rest) ← readItems readItem next
        return (item :: items, rest)
      else none
    | _ => none
termination_by text.length

/-- Reads a key, an equals sign and a value; what may stand around the sign is skipped. -/
def readPair (skip : List Char → List Char) (readItem : Reader Draft) (text : List Char) :
    Option ((KeyPath × Draft) × List Char) := do
  let (path, rest) ← readKeyPath text
  match skip rest with
  | '=' :: rest => do
    let (value, rest) ← readItem (skip rest)
    return ((path, value), rest)
  | _ => none

/-- Reads the pairs of an inline table up to its closing brace; a comma may follow the last one. -/
def readPairs (readItem : Reader Draft) (text : List Char) :
    Option (List (KeyPath × Draft) × List Char) :=
  match skipTrivia text with
  | '}' :: rest => some ([], rest)
  | start => do
    let (pair, rest) ← readPair skipTrivia readItem start
    match skipTrivia rest with
    | '}' :: rest => some ([pair], rest)
    | ',' :: next =>
      -- The comma took a character at least, so what follows is shorter.
      if next.length < text.length then do
        let (pairs, rest) ← readPairs readItem next
        return (pair :: pairs, rest)
      else none
    | _ => none
termination_by text.length

/-- The fields of an inline table, from its pairs. -/
def collect (pairs : List (KeyPath × Draft)) : Option Fields :=
  pairs.foldlM (fun fields (path, value) => assign path value .opened fields) []

/-- Reads a value in which arrays and inline tables are at most so deep in each other. -/
def readValue : Nat → List Char → Option (Draft × List Char)
  | 0, text => readAtom text
  | depth + 1, text =>
    match text with
    | '[' :: rest => do
      let (items, rest) ← readItems (readValue depth) rest
      return (.sequence (.between text rest) items, rest)
    | '{' :: rest => do
      let (pairs, rest) ← readPairs (readValue depth) rest
      return (.table (.between text rest) (← collect pairs), rest)
    | _ => readAtom text
end DeclGen.Toml
