import DeclGen.Declaration.Render
import DeclGen.Log
import DeclGen.Member
import DeclGen.Text.Region

/-! Manifests: shared settings and entries, the declarations they describe, and their module. -/

namespace DeclGen

/-- One declaration of a manifest, as it is written there. -/
structure Entry where
  /-- The name of its kind, which need not be that of any. -/
  kind : Option String := none
  /-- The name it binds, and where it stands in the manifest. -/
  name : Option (Located String) := none
  /-- The generic suffix of the name. -/
  generics : Option String := none
  /-- The line above the declaration. -/
  decorator : Option String := none
  /-- The payload on the line of the name. -/
  content : Option String := none
  /-- The nested body. -/
  block : Option String := none
  /-- The function that the block is passed to. -/
  method : Option String := none
  /-- Whether the wrapper of the settings is left out. -/
  ignoreBlockWrapper : Bool := false
  /-- The text of the comment. -/
  comment : Option String := none
  /-- Enum members, which make the body. -/
  members : List Member := []
  deriving DecidableEq, Repr, Inhabited

/-- Shared settings, and declarations in the order in which they are written. -/
structure Manifest where
  /-- The shared settings. -/
  settings : Settings := {}
  /-- The declarations. -/
  entries : List Entry := []

instance : Inhabited Manifest := ⟨{}⟩

namespace Entry

/-- The name of an entry, which is empty where there is none. -/
def displayName (entry : Entry) : String :=
  (entry.name.map (·.value)).getD ""

/-- The kind of an entry; a missing one is no error. -/
def parsedKind (entry : Entry) : Except UnknownKind (Option Kind) :=
  match entry.kind with
  | none => .ok none
  | some text => (Kind.parse text).map some

/-- The kind of an entry, where it has one that is known. -/
def knownKind (entry : Entry) : Option Kind :=
  entry.parsedKind.toOption.join

/-- The events of converting an entry: an unknown kind is worth a warning. -/
def warnings (entry : Entry) : List LogEvent :=
  match entry.parsedKind with
  | .ok _ => []
  | .error unknown => [.unknownKind unknown.message entry.displayName]

/-- The body of an entry: its block as given, or else its members written out. -/
def body (settings : Settings) (entry : Entry) : Option String :=
  match entry.block, entry.members with
  -- A block that is given counts even if it is empty.
  | some block, _ => some block
  | none, [] => none
  | none, members => some (Member.renderAll settings members)

/-- The record that an entry describes; an unknown kind counts as none. -/
def record (settings : Settings) (entry : Entry) : Declaration :=
  Declaration.withComment (.ofOption entry.comment)
    { settings
      kind := entry.knownKind
      name := entry.displayName
      generics := entry.generics
      decorator := entry.decorator
      content := entry.content
      block := entry.body settings
      method := entry.method
      ignoreBlockWrapper := entry.ignoreBlockWrapper }

/-- Converts an entry to its record. -/
def toDeclaration (settings : Settings) (entry : Entry) : Logged Declaration :=
  ⟨entry.record settings, entry.warnings⟩

end Entry

namespace Manifest

/-- Converts all entries, in order. -/
def toDeclarations (manifest : Manifest) : Logged (List Declaration) :=
  Logged.each (Entry.toDeclaration manifest.settings) manifest.entries

/-- The module of a manifest: its declarations in order, with an empty line between neighbours. -/
def render (manifest : Manifest) : Logged String :=
  manifest.toDeclarations.map fun declarations =>
    Text.joinLines (declarations.map Declaration.render)

end Manifest

end DeclGen
