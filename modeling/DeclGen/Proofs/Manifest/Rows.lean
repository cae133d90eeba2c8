import DeclGen.Proofs.Manifest.Decoding
import DeclGen.Proofs.Manifest.Spelling
import DeclGen.Proofs.Schema.Rows

/-!
Records of a manifest that are written as rows.

A row can be exchanged for the table that gives the same values to the first fields of its record,
wherever the record stands, and nothing is read behind the last field.
-/

namespace DeclGen

namespace Manifest

variable {source other : String} {tree tree' : Tree Region}

/-- A document is refused by the schema. -/
def IsUnfit (source : String) : Prop := ∃ fault, decode source = .error (.unfit fault)

/-- Two documents are decoded as the same manifest, apart from places, or both are refused. -/
def DecodedAlike (source other : String) : Prop :=
  (∃ manifest manifest', decode source = .ok manifest ∧ decode other = .ok manifest' ∧
      manifest.unplaced = manifest'.unplaced) ∨
    IsUnfit source ∧ IsUnfit other

/-- A sound document is refused where the schema does not accept its tree. -/
theorem isUnfit_of_toOption (document : Toml.Document.read source.toList = some tree)
    (sound : Toml.isSoundDocument tree = true)
    (refused : (Schema.readManifest (Region.span source.toList) tree).toOption = none) :
    IsUnfit source := by
  rw [IsUnfit, decode_of_sound document sound]
  cases taken : Schema.readManifest (Region.span source.toList) tree with
  | ok manifest => simp [taken, Except.toOption] at refused
  | error fault => exact ⟨_, rfl⟩

/-- Sound documents whose trees are accepted alike are decoded alike. -/
theorem decodedAlike_of_toOption (document : Toml.Document.read source.toList = some tree)
    (document' : Toml.Document.read other.toList = some tree')
    (sound : Toml.isSoundDocument tree = true) (sound' : Toml.isSoundDocument tree' = true)
    (alike : (Schema.readManifest (Region.span source.toList) tree).toOption.map unplaced =
      (Schema.readManifest (Region.span other.toList) tree').toOption.map unplaced) :
    DecodedAlike source other := by
  have decoded := decode_of_sound document sound
  have decoded' := decode_of_sound document' sound'
  -- Without faults a manifest is equal only to a manifest, so both are read or neither is.
  cases one : Schema.readManifest (Region.span source.toList) tree with
  | error fault =>
    cases two : Schema.readManifest (Region.span other.toList) tree' with
    | error fault' => exact .inr ⟨⟨_, by rw [decoded, one]; rfl⟩, _, by rw [decoded', two]; rfl⟩
    | ok manifest' => simp [one, two, Except.toOption] at alike
  | ok manifest =>
    cases two : Schema.readManifest (Region.span other.toList) tree' with
    | error fault' => simp [one, two, Except.toOption] at alike
    | ok manifest' =>
      exact .inl ⟨manifest, manifest', by rw [decoded, one]; rfl, by rw [decoded', two]; rfl,
        by simpa [one, two, Except.toOption] using alike⟩

/--
A record that is written as a row means what the table of the same values means.

The record is any one in the manifest, at any place, with any values in any number. Both documents
are decoded as manifests that differ in places only, or the schema refuses both, as it does where a
member has fewer than two values. More values than fields make no difference at all.
-/
theorem row_is_read_as_table {part : Schema.Part} (place : Schema.Place Unit part)
    (items : List (Tree Unit)) (document : Toml.Document.read source.toList = some tree)
    (document' : Toml.Document.read other.toList = some tree')
    (sound : Toml.isSoundDocument tree = true) (sound' : Toml.isSoundDocument tree' = true)
    (row : tree.sameValue (place.fill (.sequence () items)) = true) :
    (tree'.sameValue (place.fill (Schema.tableOf () part.fields items)) = true →
        DecodedAlike source other ∧
          (part = .member → items.length < 2 → IsUnfit source ∧ IsUnfit other)) ∧
      ∀ more, part.fields.length ≤ items.length →
        tree'.sameValue (place.fill (.sequence () (items ++ more))) = true →
        ∀ filename, SameOutcome (parse source filename) (parse other filename) := by
  have through := place.readsThrough fun _ => default
  -- Each document is read as the value that it is a spelling of.
  have read := Schema.carry_readManifest_of_sameValue row (Region.span source.toList)
    fun _ => default
  have accepted := congrArg Except.toOption read
  simp only [Schema.toOption_carry] at accepted
  refine ⟨fun table => ?_, fun more full longer filename => ?_⟩
  · have accepted' := congrArg Except.toOption (Schema.carry_readManifest_of_sameValue table
      (Region.span other.toList) fun _ => default)
    simp only [Schema.toOption_carry] at accepted'
    have alike := through.toOption_congr (part.toOption_read (fun _ => default) () () items)
    have decoded := decodedAlike_of_toOption document document' sound sound'
      (by rw [accepted, accepted', alike])
    refine ⟨decoded, ?_⟩
    rintro rfl short
    -- The manifest is not accepted without its member.
    have refused := through.toOption_eq_none (Schema.toOption_readMember_of_short () short)
    have short_row : (Schema.readManifest (Region.span source.toList) tree).toOption = none := by
      simpa only [refused, Option.map_none, Option.map_eq_none_iff] using accepted
    have short_table : (Schema.readManifest (Region.span other.toList) tree').toOption = none := by
      simpa only [alike, refused, Option.map_none, Option.map_eq_none_iff] using accepted'
    exact ⟨isUnfit_of_toOption document sound short_row,
      isUnfit_of_toOption document' sound' short_table⟩
  · have read' := Schema.carry_readManifest_of_sameValue longer (Region.span other.toList)
      fun _ => default
    have same := through.congr (part.read_row_append (fun _ => default) () full more)
    -- Nothing is read behind the last field, so both values are read in one way.
    refine sameOutcome_of_read (withoutPlaces_read_of_carry document document' ?_ ?_ filename)
    · rw [sound, sound']
    · rw [read, read', same]

/-- An entry is read as its table, a member of one value is refused, settings end with the width. -/
theorem row_is_read_as_table_of_three :
    (∃ manifest manifest', decode "declarations=[['enum','R']]" = .ok manifest ∧
        decode "[[declarations]]\nname='R'\nkind='enum'" = .ok manifest' ∧
        manifest.unplaced = manifest'.unplaced) ∧
      (IsUnfit "declarations=[\x7bmembers=[['A']]\x7d]" ∧
        IsUnfit "declarations=[\x7bmembers=[\x7bname='A'\x7d]\x7d]") ∧
      SameOutcome (parse "config=['w',':',4]" defaultName)
        (parse "config=['w',':',4,0,'x']" defaultName) := by
  refine ⟨?_, ?_, ?_⟩
  · -- The sources are variables here, so that only the kernel computes with them.
    generalize one : "declarations=[['enum','R']]" = source
    generalize two : "[[declarations]]\nname='R'\nkind='enum'" = other
    obtain ⟨tree, document, sound, row⟩ := exists_sound_sameValue source
      ((Schema.Place.entry (.table () [] ⟨"declarations", ()⟩ []) rfl () [] []).fill
        (.sequence () [.text () "enum", .text () "R"])) (by subst one; decide +kernel)
    obtain ⟨tree', document', sound', table⟩ := exists_sound_sameValue other
      ((Schema.Place.entry (.table () [] ⟨"declarations", ()⟩ []) rfl () [] []).fill
        (Schema.tableOf () Schema.Part.entry.fields [.text () "enum", .text () "R"]))
      (by subst two; decide +kernel)
    have accepted : (decode source).toOption.isSome := by
      subst one
      decide +kernel
    rcases ((row_is_read_as_table _ _ document document' sound sound' row).1 table).1 with
      alike | ⟨⟨fault, refused⟩, -⟩
    · exact alike
    · simp [refused, Except.toOption] at accepted
  · -- A member without its value is refused in both forms.
    generalize one : "declarations=[\x7bmembers=[['A']]\x7d]" = source
    generalize two : "declarations=[\x7bmembers=[\x7bname='A'\x7d]\x7d]" = other
    obtain ⟨tree, document, sound, row⟩ := exists_sound_sameValue source
      ((Schema.Place.member (.entry (.table () [] ⟨"declarations", ()⟩ []) rfl () [] [])
        (.table () [] ⟨"members", ()⟩ []) rfl () [] []).fill (.sequence () [.text () "A"]))
      (by subst one; decide +kernel)
    obtain ⟨tree', document', sound', table⟩ := exists_sound_sameValue other
      ((Schema.Place.member (.entry (.table () [] ⟨"declarations", ()⟩ []) rfl () [] [])
        (.table () [] ⟨"members", ()⟩ []) rfl () [] []).fill
          (Schema.tableOf () Schema.Part.member.fields [.text () "A"]))
      (by subst two; decide +kernel)
    exact ((row_is_read_as_table _ _ document document' sound sound' row).1 table).2 rfl
      (by decide)
  · -- There are two items more than the settings have fields.
    generalize one : "config=['w',':',4]" = source
    generalize two : "config=['w',':',4,0,'x']" = other
    obtain ⟨tree, document, sound, row⟩ := exists_sound_sameValue source
      ((Schema.Place.settings (.table () [] ⟨"config", ()⟩ []) rfl).fill
        (.sequence () [.text () "w", .text () ":", .integer () 4])) (by subst one; decide +kernel)
    obtain ⟨tree', document', sound', longer⟩ := exists_sound_sameValue other
      ((Schema.Place.settings (.table () [] ⟨"config", ()⟩ []) rfl).fill
        (.sequence () ([.text () "w", .text () ":", .integer () 4] ++
          [.integer () 0, .text () "x"]))) (by subst two; decide +kernel)
    exact (row_is_read_as_table _ _ document document' sound sound' row).2 _ (by decide) longer
      defaultName

end Manifest

end DeclGen
