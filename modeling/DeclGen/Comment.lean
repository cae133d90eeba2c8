import DeclGen.Indent
import DeclGen.Text.Lines

/-! Comments of generated source: a line comment, or a block between triple quotes. -/

namespace DeclGen

/-- A string literal of a GraphQL document, such as a description. -/
structure StringNode where
  /-- The text of the literal, without its quotes. -/
  value : String
  /-- Whether the literal was written between triple quotes. -/
  block : Bool := false
  deriving DecidableEq, Repr

/-- Where the text of a comment comes from. -/
inductive CommentSource where
  /-- There is no comment. -/
  | absent
  /-- The comment is given as its text. -/
  | text (value : String)
  /-- The comment is the text of a string literal. -/
  | node (literal : StringNode)
  deriving DecidableEq, Repr

/-- The text of a comment, or `none` where it is absent or empty. -/
def CommentSource.text? : CommentSource → Option String
  | .absent => none
  | .text value => if value = "" then none else some value
  | .node literal => if literal.value = "" then none else some literal.value

/-- An optional text as a source of a comment. -/
def CommentSource.ofOption : Option String → CommentSource
  | none => .absent
  | some value => .text value

namespace Comment

/-- Puts a backslash between every `*` and a `/` that follows it. -/
def escape : List Char → List Char
  | '*' :: '/' :: rest => '*' :: '\\' :: '/' :: escape rest
  -- A star without a slash is passed over alone, so the next character may be a star again.
  | c :: rest => c :: escape rest
  | [] => []

/-- The line that opens and closes a comment of several lines. -/
def delimiter : String := "\"\"\""

/-- The lines of a comment block, with the newline that follows its closing delimiter. -/
def blockLines (lines : List String) : List String :=
  -- The lines are joined without a newline at the end, so the last one brings its own.
  delimiter :: lines ++ [delimiter ++ "\n"]

/--
Writes a comment text: one line behind `# `, several lines between two delimiter lines.

Every line moves by the given level, and the fragment ends with a newline.
-/
def fragment (unit : Indent) (level : Nat) (text : String) : String :=
  -- The escape comes first, and it neither makes nor removes a newline.
  match Text.lines (String.ofList (escape text.toList)) with
  | [line] => unit.indent level ("# " ++ line ++ "\n")
  | lines => Text.joinLines ((blockLines lines).map (unit.indent level))

/-- Writes a comment in a given unit; an absent or empty comment is no text at all. -/
def renderWith (unit : Indent) (level : Nat) (source : CommentSource) : String :=
  match source.text? with
  | none => ""
  | some text => fragment unit level text

/-- Writes a comment with four spaces to a level. -/
def render (level : Nat) (source : CommentSource) : String :=
  renderWith .python level source

end Comment

end DeclGen
