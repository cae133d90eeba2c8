import DeclGen.FileTree
import DeclGen.Schema.Fault
import DeclGen.Text.Region

/-! What can be wrong with a manifest, and how it is told. -/

namespace DeclGen

/-- Why a text is no manifest. -/
inductive ParseCause where
  /-- It is no document at all. -/
  | malformed
  /-- It is a document that does not have the shape of a manifest. -/
  | unfit (fault : Schema.Fault Span)
  deriving DecidableEq, Repr

/-- Why an entry contradicts itself. -/
inductive Contradiction where
  /-- It has members, and its kind is not that of an enum. -/
  | membersOutsideEnum
  /-- It has members, and a block besides. -/
  | blockAndMembers
  deriving DecidableEq, Repr

/-- What is wrong with a manifest. -/
inductive ManifestError where
  /-- The file could not be read. -/
  | unreadable (path : String) (failure : FileFailure)
  /-- The text is no manifest. -/
  | unparsable (sourceName : String) (cause : ParseCause)
  /-- An entry contradicts itself. -/
  | invalid (sourceName : String) (name : Option (Located String)) (cause : Contradiction)
  deriving DecidableEq, Repr

/-- A remark on a part of a source text. -/
structure Label where
  /-- The remark. -/
  text : String
  /-- The part. -/
  span : Span
  deriving DecidableEq, Repr

/-- How a contradiction is told about an entry of a name. -/
def Contradiction.message (name : String) : Contradiction → String
  | .membersOutsideEnum => "'" ++ name ++ "' has members but is not an enum"
  | .blockAndMembers => "'" ++ name ++ "' sets both `block` and `members`"

/-- The details of why a text is no manifest, where there are any. -/
def ParseCause.detail : ParseCause → Option String
  | .malformed => none
  | .unfit fault => some (fault.problem.message .positional)

namespace ManifestError

/-- The sentence an error is told with. -/
def message : ManifestError → String
  | .unreadable path _ => "failed to read '" ++ path ++ "'"
  -- The sentence tells the usual name of a manifest, whatever its source is called.
  | .unparsable _ _ => "failed to parse pyblock.toml"
  | .invalid _ name cause => cause.message ((name.map (·.value)).getD "")

/-- The code an error is looked up by. -/
def code : ManifestError → Option String
  | .unreadable _ _ => none
  | .unparsable _ _ => some "pyblock::parse_error"
  | .invalid _ _ _ => some "pyblock::validation_error"

/-- What to do about an error. -/
def help : ManifestError → Option String
  | .unreadable _ _ => some "pass the manifest path with '--config <path>'"
  | .unparsable _ _ | .invalid _ _ _ => none

/-- Remarks on the source, where the place of an error is known. -/
def labels : ManifestError → List Label
  | .unreadable _ _ | .unparsable _ .malformed | .invalid _ none _ => []
  | .unparsable _ (.unfit fault) => [⟨"parse error here", fault.label⟩]
  | .invalid _ (some name) cause => [⟨cause.message name.value, name.span⟩]

end ManifestError

end DeclGen
