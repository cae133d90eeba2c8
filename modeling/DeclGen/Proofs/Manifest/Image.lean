import DeclGen.Proofs.Manifest.Decoding
import DeclGen.Proofs.Schema.Encoding
import DeclGen.Proofs.Toml.Document

/-! The manifests that texts describe are exactly those that break no rule. -/

namespace DeclGen.Manifest

/-- A manifest that breaks no rule, whatever characters are in its texts. -/
structure Describable (manifest : Manifest) : Prop where
  /-- Data can describe the settings. -/
  settings : manifest.settings.Describable
  /-- An entry with members is an enum and has no block. -/
  members : ∀ entry ∈ manifest.entries, entry.members ≠ [] →
    entry.kind = some "enum" ∧ entry.block = none

/-- No entry contradicts itself where all that have members are enums without a block. -/
theorem consistent_iff (manifest : Manifest) :
    manifest.Consistent ↔ ∀ entry ∈ manifest.entries, entry.members ≠ [] →
      entry.kind = some "enum" ∧ entry.block = none := by
  simp only [Consistent, Entry.contradiction_eq_none_iff]

/-- The places of names have no part in the rules. -/
theorem consistent_unplaced (manifest : Manifest) :
    manifest.unplaced.Consistent ↔ manifest.Consistent := by
  rw [consistent_iff, consistent_iff, unplaced, List.forall_mem_map]
  exact Iff.rfl

/-- What comes out of a text breaks no rule. -/
theorem describable_of_parse {source filename : String} {parsed : Manifest}
    (accepted : (parse source filename).value = .ok parsed) : parsed.Describable := by
  rw [parse_value, read_eq_ok_iff, decode_eq_ok_iff] at accepted
  obtain ⟨⟨tree, -, taken⟩, consistent⟩ := accepted
  exact ⟨Schema.describable_of_readManifest taken, (consistent_iff parsed).mp consistent⟩

/-- The text of a manifest: its settings on one line, its declarations on another. -/
def write (manifest : Manifest) : String :=
  String.ofList (Toml.writeDocument (Schema.encodeManifest manifest))

/-- A manifest that breaks no rule is parsed from its text, except for the places of names. -/
theorem parse_write {manifest : Manifest} (describable : manifest.Describable)
    (filename : String) : ∃ parsed, (parse manifest.write filename).value = .ok parsed ∧
      parsed.unplaced = manifest.unplaced := by
  -- The root table is one level above its values, which may have the full depth.
  have written : Toml.Writable Toml.depthLimit.succ (.table () (Schema.encodeManifest manifest)) :=
    Schema.writable_encodeManifest describable.settings
  obtain ⟨tree, document, erased⟩ := Toml.read_writeDocument written.1 written.2
  -- Reading the erased tree is reading the tree and then leaving out the places of names.
  have encoded := Schema.readManifest_encodeManifest describable.settings
  have labelled := Schema.readManifest_map (fun _ => ())
    (Region.span (Toml.writeDocument (Schema.encodeManifest manifest))) tree
  rw [← Tree.erase, erased, encoded] at labelled
  cases taken : Schema.readManifest
      (Region.span (Toml.writeDocument (Schema.encodeManifest manifest))) tree with
  | error fault => simp [taken, Schema.carry] at labelled
  | ok parsed =>
    simp only [taken, Schema.carry, Except.ok.injEq] at labelled
    -- What is parsed has the same kinds, blocks and members.
    have consistent : parsed.Consistent := by
      rw [← consistent_unplaced, ← labelled, consistent_unplaced, consistent_iff]
      exact describable.members
    refine ⟨parsed, ?_, labelled.symm⟩
    rw [parse_value, read_eq_ok_iff, decode_eq_ok_iff, write, String.toList_ofList]
    exact ⟨⟨tree, document, taken⟩, consistent⟩

/--
A manifest is described by some text, under any filename, exactly if it breaks no rule.

Only the places of names are not given back, and under no filename does anything else come out.
-/
theorem described_iff (manifest : Manifest) :
    ((∃ source, ∀ filename, ∃ parsed, (parse source filename).value = .ok parsed ∧
          parsed.unplaced = manifest.unplaced) ↔
        manifest.Describable) ∧
      ∀ source filename, (parse source filename).value = .ok manifest → manifest.Describable := by
  refine ⟨⟨?_, fun describable => ⟨manifest.write, parse_write describable⟩⟩,
    fun source filename => describable_of_parse⟩
  rintro ⟨source, accepted⟩
  obtain ⟨parsed, taken, same⟩ := accepted defaultName
  -- The two manifests differ in places only, which no rule looks at.
  have rules := describable_of_parse taken
  have settings : parsed.unplaced.settings = manifest.unplaced.settings := by rw [same]
  have consistent : manifest.Consistent := by
    rw [← consistent_unplaced, ← same, consistent_unplaced, consistent_iff]
    exact rules.members
  exact ⟨settings ▸ rules.settings, (consistent_iff manifest).mp consistent⟩

end DeclGen.Manifest
