import DeclGen.Declaration.Basic
import DeclGen.Text.Lines

/-! Declarations as source text: a header, a block or inline content, the alias of the name. -/

namespace DeclGen

/-- The text that opens the name of every alias. -/
def selfReferenceMark : String := "__GQL_CODEGEN_"

/-- The alias that keeps a declared name reachable from what the module declares later. -/
def selfReference (fullName : String) : String :=
  selfReferenceMark ++ fullName ++ "__ = " ++ fullName

/-- A text that is given and not empty. -/
def present (text : Option String) : Option String :=
  text.filter (· ≠ "")

/-- What stands in front of the name: only classes have a keyword, and a union is none. -/
def Kind.keyword : Option Kind → String
  | none | some .union => ""
  | some .plain | some .enum | some .scalar => "class "

/-- What stands right behind the name; the bracket of a union is closed behind its content. -/
def Kind.suffix : Option Kind → String
  | some .enum => "(Enum)"
  | some .union => " = Union["
  | some .plain | some .scalar | none => ""

namespace Declaration

/-- The decorator with its newline. -/
def decoratorLine (declaration : Declaration) : String :=
  match present declaration.decorator with
  | some decorator => decorator ++ "\n"
  | none => ""

/-- The line of the name up to where content or a block follows. -/
def header (declaration : Declaration) : String :=
  Kind.keyword declaration.kind ++ declaration.fullName ++ Kind.suffix declaration.kind

/-- The wrapper that is in force for a declaration. -/
def wrapper (declaration : Declaration) : String :=
  if declaration.ignoreBlockWrapper then "" else declaration.settings.blockWrapper

/-- What follows a block: the wrapper, and below it the alias, which scalars go without. -/
def afterBlock (declaration : Declaration) : String :=
  if declaration.kind = some .scalar then declaration.wrapper
  else declaration.wrapper ++ "\n" ++ selfReference declaration.fullName

/-- The colon, the block and what follows it, one below the other; an empty part takes no line. -/
def assembledBlock (declaration : Declaration) (block : String) : String :=
  Text.joinLines ([":" ++ declaration.wrapper, block, declaration.afterBlock].filter (· ≠ ""))

/-- A block after the transformer, inside the call of the method if there is one. -/
def blockBody (declaration : Declaration) (block : String) : String :=
  -- The transformer sees the assembled block and nothing of the call around it.
  let transformed := declaration.settings.transformer.apply (declaration.assembledBlock block)
  match present declaration.method with
  | some method => method ++ "(" ++ transformed ++ ")"
  | none => transformed

/-- Inline content with the alias below it; here the bracket of a union is closed. -/
def inlineBody (declaration : Declaration) (content : String) : String :=
  content ++ (if declaration.kind = some .union then "]" else "") ++ "\n"
    ++ selfReference declaration.fullName

/-- What follows the header: a block wins over inline content, which then only precedes it. -/
def body (declaration : Declaration) : String :=
  match present declaration.block, present declaration.content with
  -- In front of a block the content stands as it is, and nothing closes the bracket of a union.
  | some block, content => content.getD "" ++ declaration.blockBody block
  | none, some content => declaration.inlineBody content
  | none, none => ""

/-- The source text of a declaration, which ends with a newline. -/
def render (declaration : Declaration) : String :=
  declaration.comment.getD "" ++ declaration.decoratorLine ++ declaration.header
    ++ declaration.body ++ "\n"

end Declaration

end DeclGen
