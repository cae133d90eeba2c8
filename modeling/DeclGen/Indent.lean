/-! Indentation units of generated source, and the text one level of each stands for. -/

namespace DeclGen

/-- What one level of indentation is made of. -/
inductive Indent where
  /-- A number of spaces; only the widths 2, 4 and 8 are written as they stand. -/
  | spaces (width : UInt8)
  /-- One tab character. -/
  | tab
  deriving DecidableEq, Repr, Inhabited

namespace Indent

/-- Four spaces, the unit of Python's own style guide and of everything that names no other. -/
def python : Indent := .spaces 4

/-- Two spaces, the unit of GraphQL code generators. -/
def graphqlCodegen : Indent := .spaces 2

/-- The text of one level; a width that has no text of its own falls back to four spaces. -/
def text : Indent → String
  | .spaces width =>
    if width = 2 then "  " else if width = 8 then "        " else "    "
  | .tab => "\t"

/-- The text of several levels. -/
def levels (unit : Indent) : Nat → String
  | 0 => ""
  | level + 1 => unit.text ++ unit.levels level

/-- Puts a number of levels in front of a text; only its first line moves. -/
def indent (unit : Indent) (level : Nat) (line : String) : String :=
  unit.levels level ++ line

end Indent

end DeclGen
