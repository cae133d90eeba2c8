import DeclGen.Manifest.Parse

/-! Changes to a manifest that is in hand. -/

namespace DeclGen

/-- A change to the list of entries or to the settings, which leaves each entry as it is. -/
inductive Edit where
  /-- Adds the entries of another manifest, given as its source, behind the others. -/
  | append (source : String)
  /-- Removes all entries. -/
  | clear
  /-- Removes one entry. -/
  | remove (index : Nat)
  /-- Adds a copy of one entry behind the others. -/
  | duplicate (index : Nat)
  /-- Exchanges two entries. -/
  | swap (index other : Nat)
  /-- Replaces the settings. -/
  | configure (settings : Settings)

/-- A new value for one field of an entry. -/
inductive EntryChange where
  /-- A new name of the kind. -/
  | kind (value : Option String)
  /-- A new name. -/
  | name (value : Option String)
  /-- A new generic suffix. -/
  | generics (value : Option String)
  /-- A new line above. -/
  | decorator (value : Option String)
  /-- A new payload. -/
  | content (value : Option String)
  /-- A new body. -/
  | block (value : Option String)
  /-- A new function around the body. -/
  | method (value : Option String)
  /-- A new text of the comment. -/
  | comment (value : Option String)
  /-- Whether the wrapper is left out from now on. -/
  | ignoreBlockWrapper (value : Bool)
  /-- New members. -/
  | members (value : List Member)

namespace Entry

/-- The entry with a new value for one field; a name that is set stands in a source of its own. -/
def change (entry : Entry) : EntryChange → Entry
  | .kind value => { entry with kind := value }
  | .name value => { entry with name := value.map fun name => ⟨name, ⟨0, name.utf8ByteSize⟩⟩ }
  | .generics value => { entry with generics := value }
  | .decorator value => { entry with decorator := value }
  | .content value => { entry with content := value }
  | .block value => { entry with block := value }
  | .method value => { entry with method := value }
  | .comment value => { entry with comment := value }
  | .ignoreBlockWrapper value => { entry with ignoreBlockWrapper := value }
  | .members value => { entry with members := value }

end Entry

namespace Manifest

/-- The manifest with other entries. -/
def withEntries (manifest : Manifest) (entries : List Entry) : Manifest :=
  { manifest with entries }

/-- Exchanges two elements of a list; nothing happens where one of them is not there. -/
def exchange (entries : List Entry) (index other : Nat) : List Entry :=
  match entries[index]?, entries[other]? with
  | some one, some two => (entries.set index two).set other one
  | _, _ => entries

/-- The manifest after an edit; a source that is appended must be a valid manifest itself. -/
def edit (manifest : Manifest) : Edit → Logged (Except ManifestError Manifest)
  | .append source =>
    (parse source defaultName).map fun parsed =>
      parsed.map fun other => manifest.withEntries (manifest.entries ++ other.entries)
  | .clear => ⟨.ok (manifest.withEntries []), []⟩
  -- Behind the end of the list there is nothing to remove or to copy.
  | .remove index => ⟨.ok (manifest.withEntries (manifest.entries.eraseIdx index)), []⟩
  | .duplicate index =>
    ⟨.ok (manifest.withEntries (manifest.entries ++ manifest.entries[index]?.toList)), []⟩
  | .swap index other => ⟨.ok (manifest.withEntries (exchange manifest.entries index other)), []⟩
  | .configure settings => ⟨.ok { manifest with settings }, []⟩

/-- The manifest with a new value for one field of one entry. -/
def changeEntry (manifest : Manifest) (index : Nat) (change : EntryChange) : Manifest :=
  manifest.withEntries (manifest.entries.modify index (·.change change))

end Manifest

end DeclGen
