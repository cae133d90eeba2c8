import DeclGen.Manifest.Basic
import DeclGen.Schema.Member
import DeclGen.Schema.Settings

/-! Entries and manifests in data, apart from the rules that an entry has to keep. -/

namespace DeclGen.Schema

variable {L : Type}

/-- Reads a text together with the bytes it was written in. -/
def readLocated (locate : L → Span) (value : Tree L) : Except (Fault L) (Located String) := do
  return ⟨← readText value, locate value.label⟩

/-- A field of an entry that holds a text or is absent. -/
def textField (name : String) (put : Entry → Option String → Entry) : Field L Entry :=
  ⟨name, fun _ value entry => do return put entry (← readOptionalText value)⟩

/-- The shape of an entry. -/
def entryRecord (locate : L → Span) : Record L Entry where
  expected := .entry
  fields := [
    textField "kind" fun entry kind => { entry with kind },
    ⟨"name", fun _ value entry => do
      return { entry with name := some (← readLocated locate value) }⟩,
    textField "generics" fun entry generics => { entry with generics },
    textField "decorator" fun entry decorator => { entry with decorator },
    textField "content" fun entry content => { entry with content },
    textField "block" fun entry block => { entry with block },
    textField "method" fun entry method => { entry with method },
    ⟨"ignore_block_wrapper", fun _ value entry => do
      return { entry with ignoreBlockWrapper := ← readBoolean value }⟩,
    textField "comment" fun entry comment => { entry with comment },
    ⟨"members", fun _ value entry => do
      return { entry with members := ← readEach (readMember .ignored) value }⟩]
  strict := true

/-- Reads an entry. -/
def readEntry (locate : L → Span) (value : Tree L) : Except (Fault L) Entry :=
  (entryRecord locate).read {} value

/-- The shape of a manifest. -/
def manifestRecord (locate : L → Span) : Record L Manifest where
  expected := .manifest
  fields := [
    ⟨"config", fun _ value manifest => do
      return { manifest with settings := ← readSettings .ignored value }⟩,
    ⟨"declarations", fun _ value manifest => do
      return { manifest with entries := ← readEach (readEntry locate) value }⟩]
  strict := true

/-- Reads a manifest, without a look at what its entries say together. -/
def readManifest (locate : L → Span) (value : Tree L) : Except (Fault L) Manifest :=
  (manifestRecord locate).read {} value

end DeclGen.Schema
