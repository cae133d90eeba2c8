import DeclGen.Comment
import DeclGen.Settings

/-! Enum members, and the body of an enum class that lists them. -/

namespace DeclGen

/-- A member of a generated enum class. -/
structure Member where
  /-- The name the member is bound to. -/
  name : String
  /-- The expression of its value, quotes included. -/
  value : String
  /-- The text of the comment above it. -/
  comment : Option String := none
  deriving DecidableEq, Repr

namespace Member

/-- The line that binds a member, without its indentation. -/
def binding (settings : Settings) (member : Member) : String :=
  member.name ++ " " ++ settings.memberSeparator ++ " " ++ member.value

/-- A member in the body of its class: its comment, then its binding, one level deep. -/
def render (settings : Settings) (member : Member) : String :=
  -- A comment brings its newline along, so the two parts are put together without one.
  Comment.renderWith settings.indent 1 (.ofOption member.comment)
    ++ settings.indent.indent 1 (member.binding settings)

/-- The body of an enum class: its members in order, each on lines of its own. -/
def renderAll (settings : Settings) (members : List Member) : String :=
  Text.joinLines (members.map (render settings))

end Member

end DeclGen
