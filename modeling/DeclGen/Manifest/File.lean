import DeclGen.FileTree
import DeclGen.Manifest.Parse

/-! Manifests that come from a file. -/

namespace DeclGen

/-- A manifest with the file it comes from. -/
structure ManifestFile where
  /-- The path as it was given. -/
  path : String
  /-- The text of the file. -/
  content : String
  /-- The manifest. -/
  manifest : Manifest

namespace ManifestFile

/-- The manifest of a file, from what came of reading it. -/
def ofContent (path : String) (content : Except FileFailure String) :
    Logged (Except ManifestError ManifestFile) :=
  match content with
  | .error failure => ⟨.error (.unreadable path failure), []⟩
  | .ok content =>
    (Manifest.parse content path).map fun parsed =>
      parsed.map fun manifest => { path, content, manifest }

/-- Loads a manifest; that it is about to be read is logged whether or not this succeeds. -/
def load (path : String) (content : Except FileFailure String) :
    Logged (Except ManifestError ManifestFile) :=
  (Logged.mk () [.readingManifest path]).andThen fun _ => ofContent path content

/-- Loads the manifest at a path of a file tree. -/
def fromTree (tree : FileTree) (path : String) : Logged (Except ManifestError ManifestFile) :=
  load path (tree.read path)

end ManifestFile

end DeclGen
