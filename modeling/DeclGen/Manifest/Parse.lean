import DeclGen.Manifest.Validation
import DeclGen.Schema.Manifest
import DeclGen.Toml.Document
import DeclGen.Toml.Soundness

/-! Reading the manifest that a text describes. -/

namespace DeclGen

namespace Manifest

/--
Reads the manifest that a text describes, without validation.

What is only wrong without a schema, such as a number of too many bits, is passed over where it is
skipped; where the document does not fit a manifest either, it counts as malformed.
-/
def decode (source : String) : Except ParseCause Manifest :=
  match Toml.Document.read source.toList with
  | none => .error .malformed
  | some tree =>
    match Schema.readManifest (Region.span source.toList) tree with
    | .ok manifest => .ok manifest
    | .error fault =>
      if Toml.isSoundDocument tree then .error (.unfit (fault.map (Region.span source.toList)))
      else .error .malformed

/-- Reads a manifest and validates it. -/
def read (source filename : String) : Except ManifestError Manifest :=
  match decode source with
  | .error cause => .error (.unparsable filename cause)
  | .ok manifest => do
    manifest.validate filename
    return manifest

/-- Reads a manifest and validates it; only success is logged. -/
def parse (source filename : String) : Logged (Except ManifestError Manifest) :=
  match read source filename with
  | .error error => ⟨.error error, []⟩
  | .ok manifest => ⟨.ok manifest, [.parsedManifest filename manifest.entries.length]⟩

/-- The name of a manifest that is not read from a file. -/
def defaultName : String := "pyblock.toml"

end Manifest

end DeclGen
