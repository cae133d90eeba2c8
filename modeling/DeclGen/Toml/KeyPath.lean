import DeclGen.Toml.StringLiteral

/-! Keys: a bare word or a quoted one, and paths of keys with dots between them. -/

namespace DeclGen.Toml

/-- The keys of a path: the tables it passes through and the key it ends with. -/
structure KeyPath where
  /-- The keys in front of the last one. -/
  parents : List (Key Place)
  /-- The last key. -/
  last : Key Place

namespace KeyPath

/-- All keys of a path. -/
def keys (path : KeyPath) : List (Key Place) := path.parents ++ [path.last]

end KeyPath

/-- Whether a character may stand in a bare key. -/
def isBareKeyChar (c : Char) : Bool := c.isAlphanum || c = '_' || c = '-'

/-- Reads one key, quoted or bare. -/
def readKey : Reader (Key Place)
  | [] => none
  | c :: rest =>
    if c = '"' || c = '\x27' then do
      let (name, stop) ← readLineLiteral (c :: rest)
      return (⟨name, .between (c :: rest) stop⟩, stop)
    else
      let word := (c :: rest).takeWhile isBareKeyChar
      let stop := (c :: rest).drop word.length
      if word = [] then none else some (⟨String.ofList word, .between (c :: rest) stop⟩, stop)

/-- Reads keys with dots between them, and the blanks around the dots and behind the last key. -/
def readKeys (text : List Char) : Option (KeyPath × List Char) := do
  let (key, rest) ← readKey text
  match skipBlanks rest with
  | '.' :: next =>
    -- A key takes at least one character, so what follows its dot is shorter.
    if (skipBlanks next).length < text.length then do
      let (path, rest) ← readKeys (skipBlanks next)
      return (⟨key :: path.parents, path.last⟩, rest)
    else none
  | rest => some (⟨[], key⟩, rest)
termination_by text.length

/-- Reads a path of keys, which may not be longer than values may be deep. -/
def readKeyPath : Reader KeyPath := fun text =>
  (readKeys text).filter fun (path, _) => path.keys.length ≤ depthLimit

end DeclGen.Toml
