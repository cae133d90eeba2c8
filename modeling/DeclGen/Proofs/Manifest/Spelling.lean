import DeclGen.Proofs.Manifest.Validation
import DeclGen.Proofs.Schema.KeyOrder
import DeclGen.Proofs.Toml.Soundness

/-!
Spellings of a manifest: what is parsed depends on the value of the document only.

Spellings of one value differ in labels and in the order of keys, and only places follow from these.
-/

namespace DeclGen

/-- A cause that does not know where in the source something is wrong. -/
def ParseCause.unplaced : ParseCause → ParseCause
  | .malformed => .malformed
  | .unfit fault => .unfit (fault.map fun _ => default)

namespace ManifestError

/-- An error that does not know where in the source something is wrong. -/
def unplaced : ManifestError → ManifestError
  | .unreadable path failure => .unreadable path failure
  | .unparsable sourceName cause => .unparsable sourceName cause.unplaced
  | .invalid sourceName name cause =>
    .invalid sourceName (name.map fun name => { name with span := default }) cause

/-- The details of an error, where there are any. -/
def detail : ManifestError → Option String
  | .unparsable _ cause => cause.detail
  | .unreadable _ _ | .invalid _ _ _ => none

/-- What is told about an error, apart from places in the source. -/
structure Account where
  /-- The sentence it is told with. -/
  message : String
  /-- The code it is looked up by. -/
  code : Option String
  /-- What to do about it. -/
  help : Option String
  /-- The details, where there are any. -/
  detail : Option String
  /-- The remarks on parts of the source. -/
  remarks : List String

/-- The account of an error. -/
def account (error : ManifestError) : Account where
  message := error.message
  code := error.code
  help := error.help
  detail := error.detail
  remarks := error.labels.map (·.text)

/-- What is told does not depend on places. -/
theorem account_unplaced (error : ManifestError) : error.unplaced.account = error.account := by
  rcases error with
    ⟨path, failure⟩ | ⟨sourceName, _ | fault⟩ | ⟨sourceName, _ | name, cause⟩ <;> rfl

end ManifestError

namespace Entry

/-- The record of an entry has nothing to do with the place of its name. -/
theorem toDeclaration_unplaced (settings : Settings) (entry : Entry) :
    entry.unplaced.toDeclaration settings = entry.toDeclaration settings := by
  obtain ⟨kind, name | name⟩ := entry <;> rfl

end Entry

namespace Manifest

/-- The records of a manifest and their log have nothing to do with the places of names. -/
theorem toDeclarations_unplaced (manifest : Manifest) :
    manifest.unplaced.toDeclarations = manifest.toDeclarations := by
  simp only [toDeclarations, unplaced, Logged.each, List.map_map, List.flatMap_map,
    Function.comp_def, Entry.toDeclaration_unplaced]

/-- A contradiction is found in the same entry whatever the places of names are. -/
theorem validate_unplaced (manifest : Manifest) (filename : String) :
    manifest.unplaced.validate filename =
      (manifest.validate filename).mapError ManifestError.unplaced := by
  -- The check looks at no place, so the first offender is the same but for its own place.
  have found : manifest.unplaced.entries.findSome?
        (fun entry => entry.contradiction.map (entry, ·)) =
      (manifest.entries.findSome? fun entry => entry.contradiction.map (entry, ·)).map
        fun found => (found.1.unplaced, found.2) := by
    rw [unplaced, List.findSome?_map, List.map_findSome?]
    congr 1
    funext entry
    simp only [Function.comp_apply, Option.map_map]
    rfl
  rw [validate, validate, found]
  cases manifest.entries.findSome? fun entry => entry.contradiction.map (entry, ·) <;> rfl

/-- What comes of reading, without any place in the source. -/
def withoutPlaces : Except ManifestError Manifest → Except ManifestError Manifest
  | .ok manifest => .ok manifest.unplaced
  | .error error => .error error.unplaced

/-- What comes of reading is decided by what the schema makes of the tree, apart from places. -/
theorem withoutPlaces_read_of_carry {source other : String} {tree tree' : Tree Region}
    (document : Toml.Document.read source.toList = some tree)
    (document' : Toml.Document.read other.toList = some tree')
    (sound : Toml.isSoundDocument tree = Toml.isSoundDocument tree')
    (carried : Schema.carry (fun _ => ()) unplaced
        (Schema.readManifest (Region.span source.toList) tree) =
      Schema.carry (fun _ => ()) unplaced (Schema.readManifest (Region.span other.toList) tree'))
    (filename : String) :
    withoutPlaces (read source filename) = withoutPlaces (read other filename) := by
  simp only [read, decode, document, document', sound]
  -- Both are taken by the schema or refused by it, with results that are the same but for places.
  cases taken : Schema.readManifest (Region.span source.toList) tree with
  | error fault =>
    cases taken' : Schema.readManifest (Region.span other.toList) tree' with
    | ok manifest' => simp [taken, taken', Schema.carry] at carried
    | error fault' =>
      simp only [taken, taken', Schema.carry, Schema.Fault.map, Except.error.injEq,
        Schema.Fault.mk.injEq, and_true] at carried
      -- A fault is told if the document is sound, which both are or neither is.
      cases Toml.isSoundDocument tree' with
      | false => rfl
      | true =>
        simp only [withoutPlaces, ManifestError.unplaced, ParseCause.unplaced, Schema.Fault.map,
          carried, if_true]
  | ok manifest =>
    cases taken' : Schema.readManifest (Region.span other.toList) tree' with
    | error fault' => simp [taken, taken', Schema.carry] at carried
    | ok manifest' =>
      simp only [taken, taken', Schema.carry, Except.ok.injEq] at carried
      -- The check looks at no place, so it ends alike.
      have valid : (manifest.validate filename).mapError ManifestError.unplaced =
          (manifest'.validate filename).mapError ManifestError.unplaced := by
        rw [← validate_unplaced, carried, validate_unplaced]
      cases one : manifest.validate filename <;> cases two : manifest'.validate filename <;>
        simp_all [withoutPlaces, Except.mapError, Bind.bind, Except.bind, Pure.pure, Except.pure]

/-- What comes of reading is decided by the value of the document, apart from places. -/
theorem withoutPlaces_read {source other : String} {tree tree' : Tree Region}
    (document : Toml.Document.read source.toList = some tree)
    (document' : Toml.Document.read other.toList = some tree')
    (same : tree.sameValue tree' = true) (filename : String) :
    withoutPlaces (read source filename) = withoutPlaces (read other filename) :=
  withoutPlaces_read_of_carry document document' (Toml.isSoundDocument_of_sameValue same)
    (Schema.carry_readManifest_of_sameValue same _ _) filename

/-- Two runs of the parser have the same outcome, apart from places in their sources. -/
structure SameOutcome (one other : Logged (Except ManifestError Manifest)) : Prop where
  /-- The same is logged. -/
  events : one.events = other.events
  /-- The same manifest or the same error comes of both. -/
  value : withoutPlaces one.value = withoutPlaces other.value
  /-- The same is told about errors. -/
  account : ∀ error error', one.value = .error error → other.value = .error error' →
    error.account = error'.account

/-- What is read decides the outcome. -/
theorem sameOutcome_of_read {source other filename : String}
    (equal : withoutPlaces (read source filename) = withoutPlaces (read other filename)) :
    SameOutcome (parse source filename) (parse other filename) where
  events := by
    rw [parse, parse]
    cases one : read source filename <;> cases two : read other filename <;>
      simp only [one, two, withoutPlaces, reduceCtorEq, Except.ok.injEq] at equal ⊢
    -- The event tells how many entries there are, which no place changes.
    have count := congrArg (·.entries.length) equal
    simp only [unplaced, List.length_map] at count
    rw [count]
  value := by rw [parse_value, parse_value, equal]
  account error error' one two := by
    rw [parse_value] at one two
    simp only [one, two, withoutPlaces, Except.error.injEq] at equal
    rw [← ManifestError.account_unplaced, equal, ManifestError.account_unplaced]

variable {source other : String} {tree tree' : Tree Region}

/--
Two spellings of the same value are both accepted or both rejected.

The manifests differ in the places of names only, and so give the same records, log and module; the
errors differ in places only, and so say the same.
-/
theorem parse_depends_on_value (document : Toml.Document.read source.toList = some tree)
    (document' : Toml.Document.read other.toList = some tree')
    (same : tree.sameValue tree' = true) (filename : String) :
    (parse source filename).events = (parse other filename).events ∧
      ((∃ manifest manifest',
          (parse source filename).value = .ok manifest ∧
          (parse other filename).value = .ok manifest' ∧
          manifest.unplaced = manifest'.unplaced ∧
          manifest.toDeclarations = manifest'.toDeclarations ∧
          manifest.render = manifest'.render) ∨
        ∃ error error',
          (parse source filename).value = .error error ∧
          (parse other filename).value = .error error' ∧
          error.unplaced = error'.unplaced ∧
          error.account = error'.account) := by
  have equal := withoutPlaces_read document document' same filename
  rw [parse_value, parse_value, parse, parse]
  -- Both sources are read or neither is, since their outcomes agree but for the places.
  cases one : read source filename with
  | ok manifest =>
    cases two : read other filename with
    | error error => simp [one, two, withoutPlaces] at equal
    | ok manifest' =>
      simp only [one, two, withoutPlaces, Except.ok.injEq] at equal
      have declarations : manifest.toDeclarations = manifest'.toDeclarations := by
        rw [← toDeclarations_unplaced, equal, toDeclarations_unplaced]
      have count : manifest.entries.length = manifest'.entries.length := by
        simpa [unplaced] using congrArg (·.entries.length) equal
      refine ⟨by simp only [count], .inl ⟨manifest, manifest', rfl, rfl, equal, declarations, ?_⟩⟩
      rw [render, render, declarations]
  | error error =>
    cases two : read other filename with
    | ok manifest => simp [one, two, withoutPlaces] at equal
    | error error' =>
      simp only [one, two, withoutPlaces, Except.error.injEq] at equal
      refine ⟨rfl, .inr ⟨error, error', rfl, rfl, equal, ?_⟩⟩
      rw [← ManifestError.account_unplaced, equal, ManifestError.account_unplaced]

/-- Two documents whose values are seen to be the same have trees of the same value. -/
theorem exists_sameValue {source other : String}
    (seen : ((Toml.Document.read source.toList).bind fun tree =>
      (Toml.Document.read other.toList).map tree.sameValue) = some true) :
    ∃ tree tree', Toml.Document.read source.toList = some tree ∧
      Toml.Document.read other.toList = some tree' ∧ tree.sameValue tree' = true := by
  obtain ⟨tree, document, rest⟩ := Option.bind_eq_some_iff.mp seen
  obtain ⟨tree', document', same⟩ := Option.map_eq_some_iff.mp rest
  exact ⟨tree, tree', document, document', same⟩

/-- A sound document that is seen to have a value has a tree of that value. -/
theorem exists_sound_sameValue (source : String) (value : Tree Unit)
    (seen : (Toml.Document.read source.toList).map (fun tree =>
      (Toml.isSoundDocument tree, tree.sameValue value)) = some (true, true)) :
    ∃ tree, Toml.Document.read source.toList = some tree ∧ Toml.isSoundDocument tree = true ∧
      tree.sameValue value = true := by
  obtain ⟨tree, document, both⟩ := Option.map_eq_some_iff.mp seen
  exact ⟨tree, document, congrArg Prod.fst both, congrArg Prod.snd both⟩

/--
An inline table gives the module that a header, an escape and a comment give.

Of two keys that are unknown, the same one is told in either order.
-/
theorem parse_depends_on_value_of_spellings :
    (∃ manifest manifest',
      (parse "declarations=[\x7bname='R',kind='enum',members=[['A','1']]\x7d]" defaultName).value =
          .ok manifest ∧
        (parse "[[declarations]] # R\nkind=\"\\u0065num\"\nmembers=[\n[\"A\",'1']]\n'name'='R'"
          defaultName).value = .ok manifest' ∧
        manifest.render = manifest'.render) ∧
      ∃ error error',
        (parse "b=1\na=2" defaultName).value = .error error ∧
          (parse "\"a\" = 2\nb=1" defaultName).value = .error error' ∧
          error.account = error'.account := by
  constructor
  · generalize one : "declarations=[\x7bname='R',kind='enum',members=[['A','1']]\x7d]" = source
    generalize two :
      "[[declarations]] # R\nkind=\"\\u0065num\"\nmembers=[\n[\"A\",'1']]\n'name'='R'" = other
    -- The kernel reads both sources, and the trees it finds hold the same value.
    have seen : ((Toml.Document.read source.toList).bind fun tree =>
        (Toml.Document.read other.toList).map tree.sameValue) = some true := by
      subst one two
      decide +kernel
    have accepted : (parse source defaultName).value.toOption.isSome := by
      subst one
      decide +kernel
    obtain ⟨tree, tree', document, document', same⟩ := exists_sameValue seen
    rcases (parse_depends_on_value document document' same defaultName).2 with
      ⟨manifest, manifest', taken, taken', -, -, module⟩ | ⟨error, error', refused, -⟩
    · exact ⟨manifest, manifest', taken, taken', module⟩
    · simp [refused, Except.toOption] at accepted
  · generalize one : "b=1\na=2" = source
    generalize two : "\"a\" = 2\nb=1" = other
    have seen : ((Toml.Document.read source.toList).bind fun tree =>
        (Toml.Document.read other.toList).map tree.sameValue) = some true := by
      subst one two
      decide +kernel
    have rejected : (parse source defaultName).value.toOption.isNone := by
      subst one
      decide +kernel
    obtain ⟨tree, tree', document, document', same⟩ := exists_sameValue seen
    rcases (parse_depends_on_value document document' same defaultName).2 with
      ⟨manifest, manifest', taken, -⟩ | ⟨error, error', refused, refused', -, account⟩
    · simp [taken, Except.toOption] at rejected
    · exact ⟨error, error', refused, refused', account⟩

end Manifest

end DeclGen
