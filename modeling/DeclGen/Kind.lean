/-! Kinds of declarations and the names they are written with. -/

namespace DeclGen

/-- The shape of a declaration. -/
inductive Kind where
  /-- A class. -/
  | plain
  /-- A class derived from `Enum`. -/
  | enum
  /-- An alias of a `Union`. -/
  | union
  /-- A custom scalar. -/
  | scalar
  deriving DecidableEq, Repr

/-- A name that no kind has. -/
structure UnknownKind where
  /-- The name as it was given. -/
  text : String
  deriving DecidableEq, Repr

/-- What is wrong with a name that no kind has. -/
def UnknownKind.message (error : UnknownKind) : String :=
  "unknown declaration kind '" ++ error.text ++ "'"

namespace Kind

/-- Every kind, in the order in which messages list them. -/
def all : List Kind := [.plain, .enum, .union, .scalar]

/-- The name a kind is shown with. -/
def name : Kind → String
  | .plain => "plain"
  | .enum => "enum"
  | .union => "union"
  | .scalar => "scalar"

/-- Finds the kind that is shown with a name. -/
def ofName? (name : String) : Option Kind :=
  all.find? (·.name == name)

/-- Reads a kind; `class` is another name of the plain kind. -/
def parse (text : String) : Except UnknownKind Kind :=
  if text = "class" then .ok .plain
  else match ofName? text with
    | some kind => .ok kind
    | none => .error ⟨text⟩

end Kind

end DeclGen
