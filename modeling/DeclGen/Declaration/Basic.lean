import DeclGen.Comment
import DeclGen.Kind
import DeclGen.Settings

/-! Declaration records and the calls that fill them in. -/

namespace DeclGen

/-- The pieces of one generated declaration; a text that is empty counts as absent. -/
structure Declaration where
  /-- The settings in force when the declaration is written. -/
  settings : Settings := {}
  /-- The shape of the declaration. -/
  kind : Option Kind := none
  /-- The name it binds. -/
  name : String := ""
  /-- Written behind the name as it stands, such as `[T]`. -/
  generics : Option String := none
  /-- A line above the declaration. -/
  decorator : Option String := none
  /-- A payload on the line of the name, such as the members of a union. -/
  content : Option String := none
  /-- The nested body, already indented. -/
  block : Option String := none
  /-- The function that the assembled block is passed to. -/
  method : Option String := none
  /-- Whether the wrapper of the settings is left out. -/
  ignoreBlockWrapper : Bool := false
  /-- The comment fragment above the declaration. -/
  comment : Option String := none

instance : Inhabited Declaration := ⟨{}⟩

namespace Declaration

/-- Attaches a comment as a fragment at level zero; an absent or empty one changes nothing. -/
def withComment (source : CommentSource) (declaration : Declaration) : Declaration :=
  match source.text? with
  | none => declaration
  -- The fragment is written at once, with the unit that is in force by now.
  | some text =>
    { declaration with comment := some (Comment.fragment declaration.settings.indent 0 text) }

/-- One call that fills in a declaration. -/
inductive Call where
  /-- Sets the kind. -/
  | kind (value : Kind)
  /-- Sets the name. -/
  | name (value : String)
  /-- Sets the generic suffix of the name. -/
  | generics (value : String)
  /-- Sets the decorator. -/
  | decorator (value : String)
  /-- Sets the inline content. -/
  | content (value : String)
  /-- Sets the nested body. -/
  | block (value : String)
  /-- Sets the method around the block, and with it whether the wrapper is left out. -/
  | method (value : String) (ignoreBlockWrapper : Bool)
  /-- Attaches a comment. -/
  | comment (source : CommentSource)
  /-- Replaces the settings; a comment or body that is already written stays as it is. -/
  | settings (value : Settings)

/-- The declaration after one call. -/
def apply (declaration : Declaration) : Call → Declaration
  | .kind value => { declaration with kind := some value }
  | .name value => { declaration with name := value }
  | .generics value => { declaration with generics := some value }
  | .decorator value => { declaration with decorator := some value }
  | .content value => { declaration with content := some value }
  | .block value => { declaration with block := some value }
  | .method value ignored =>
    { declaration with method := some value, ignoreBlockWrapper := ignored }
  | .comment source => declaration.withComment source
  | .settings value => { declaration with settings := value }

/-- The declaration after a run of calls, from the first to the last. -/
def applyAll (declaration : Declaration) (calls : List Call) : Declaration :=
  calls.foldl apply declaration

/-- The name followed by its generic suffix. -/
def fullName (declaration : Declaration) : String :=
  declaration.name ++ declaration.generics.getD ""

end Declaration

end DeclGen
