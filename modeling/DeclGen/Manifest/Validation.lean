import DeclGen.Manifest.Basic
import DeclGen.Manifest.Error

/-! The rules that every entry of a manifest has to keep. -/

namespace DeclGen

namespace Entry

/-- How an entry contradicts itself, if it does: members need an enum and allow no block. -/
def contradiction (entry : Entry) : Option Contradiction :=
  if entry.members = [] then none
  else if entry.knownKind ≠ some .enum then some .membersOutsideEnum
  -- An empty block is a block as well.
  else if entry.block ≠ none then some .blockAndMembers
  else none

end Entry

namespace Manifest

/-- Checks the entries in order, up to the first that contradicts itself. -/
def validate (sourceName : String) (manifest : Manifest) : Except ManifestError Unit :=
  match manifest.entries.findSome? fun entry => entry.contradiction.map (entry, ·) with
  | some (entry, cause) => .error (.invalid sourceName entry.name cause)
  | none => .ok ()

end Manifest

end DeclGen
