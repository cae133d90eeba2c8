import DeclGen.Toml.Escape
import DeclGen.Toml.Place

/-!
String literals: between double quotes with escapes, between single quotes without, on one line or,
between three quotes each, on several.

A literal is first cut out as it stands and then decoded.
-/

namespace DeclGen.Toml

/-- Cuts the body of a literal of one line from its rest; behind a backslash no quote ends it. -/
def cutLine (quote : Char) (escapes : Bool) : List Char → Option (List Char × List Char)
  | [] => none
  | c :: rest =>
    if c = quote then some ([], rest)
    else if c = '\n' then none
    else if escapes && c = '\\' then
      match rest with
      | [] => none
      | d :: rest =>
        if d = '\n' then none
        else (cutLine quote escapes rest).map fun (body, rest) => (c :: d :: body, rest)
    else (cutLine quote escapes rest).map fun (body, rest) => (c :: body, rest)

/--
Cuts the body of a literal of several lines from its rest.

Three quotes end it; of up to two more behind them, the body ends with as many.
-/
def cutBlock (quote : Char) (escapes : Bool) : List Char → Option (List Char × List Char)
  | [] => none
  | c :: rest =>
    if c = quote && rest.take 2 = [quote, quote] then
      let extra := ((rest.drop 2).take 2).takeWhile (· = quote)
      some (extra, rest.drop (2 + extra.length))
    else if escapes && c = '\\' then
      match rest with
      | [] => none
      | d :: rest => (cutBlock quote escapes rest).map fun (body, rest) => (c :: d :: body, rest)
    else (cutBlock quote escapes rest).map fun (body, rest) => (c :: body, rest)

/-- Leaves out a newline right behind the opening quotes of a literal of several lines. -/
def dropNewline : List Char → List Char
  | '\n' :: rest => rest
  | '\r' :: '\n' :: rest => rest
  | body => body

/-- Whether a body has plain characters and newlines only. -/
def isPlainBody : List Char → Bool
  | '\r' :: '\n' :: rest | '\n' :: rest => isPlainBody rest
  | c :: rest => isPlainChar c && isPlainBody rest
  | [] => true

/-- Decodes a body that may or may not have escapes. -/
def decodeBody (escapes : Bool) (body : List Char) : Option (List Char) :=
  if !isPlainBody body then none
  else if escapes then unescape body else some body

/-- Reads a literal of one line, which is all that a key may be. -/
def readLineLiteral : Reader String
  | [] => none
  | quote :: rest =>
    if quote = '"' || quote = '\x27' then do
      -- Only double quotes have escapes.
      let (body, rest) ← cutLine quote (quote = '"') rest
      let value ← decodeBody (quote = '"') body
      return (String.ofList value, rest)
    else none

/-- Reads a literal of one line or of several. -/
def readLiteral : Reader String
  | quote :: second :: third :: rest =>
    if (quote = '"' || quote = '\x27') && second = quote && third = quote then do
      let (body, rest) ← cutBlock quote (quote = '"') rest
      -- The newline is left out before escapes are replaced, so an escaped one stays.
      let value ← decodeBody (quote = '"') (dropNewline body)
      return (String.ofList value, rest)
    else readLineLiteral (quote :: second :: third :: rest)
  | text => readLineLiteral text

end DeclGen.Toml
