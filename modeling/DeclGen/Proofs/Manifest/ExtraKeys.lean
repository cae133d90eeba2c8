import DeclGen.Proofs.Manifest.Decoding
import DeclGen.Proofs.Manifest.Spelling
import DeclGen.Proofs.Schema.ExtraKeys

/-!
Documents with keys that no field has.

Outside members the key is told about, whatever its value is and whatever else is in the document;
in members it makes no difference.
-/

namespace DeclGen

namespace Manifest

variable {source other : String} {tree tree' : Tree Region}

/--
A key that no field has is told about outside members, and passed over in them.

With one such key in its root, its settings or an entry, a document that was decoded is refused by
the schema with that key; with any number of them in members, any document is parsed as before.
-/
theorem unknown_key_is_told_outside_members
    (document : Toml.Document.read source.toList = some tree)
    (document' : Toml.Document.read other.toList = some tree')
    (sound' : Toml.isSoundDocument tree' = true) (filename : String) :
    (∀ (part : Schema.Part) (place : Schema.Place Unit part)
        (front behind : List (Key Unit × Tree Unit)) (key : Key Unit) (value : Tree Unit),
      part ≠ .member → key.name ∉ part.fields → (∃ manifest, decode source = .ok manifest) →
      tree.sameValue (place.fill (.table () (front ++ behind))) = true →
      tree'.sameValue (place.fill (.table () (front ++ (key, value) :: behind))) = true →
      ∃ fault,
        (parse other filename).value = .error (.unparsable filename (.unfit fault)) ∧
          (ParseCause.unfit fault).detail = some ("unknown field " ++ Schema.quoted key.name ++
            ", expected " ++ Schema.oneOf part.fields)) ∧
      ∀ one two : Tree Unit, Relation.ReflTransGen Schema.AddsMemberKey one two →
        Toml.isSoundDocument tree = true → tree.sameValue one = true →
        tree'.sameValue two = true →
        SameOutcome (parse source filename) (parse other filename) := by
  refine ⟨?_, ?_⟩
  · rintro part place front behind key value outside unknown ⟨manifest, decoded⟩ before after
    obtain ⟨_, read, accepted⟩ := (decode_eq_ok_iff source manifest).mp decoded
    obtain rfl : tree = _ := Option.some.inj (document.symm.trans read)
    -- The value is accepted without the key, so it is refused with it, and the documents likewise.
    have carried := Schema.carry_readManifest_of_sameValue before (Region.span source.toList)
      fun _ => default
    rw [accepted] at carried
    obtain ⟨_, accepted⟩ := Schema.exists_of_carry_eq_ok carried.symm
    have carried' := Schema.carry_readManifest_of_sameValue after (Region.span other.toList)
      fun _ => default
    rw [place.readManifest_unknown outside accepted unknown value] at carried'
    obtain ⟨fault, refused, same⟩ := Schema.exists_of_carry_eq_error carried'
    refine ⟨fault.map (Region.span other.toList), ?_, ?_⟩
    · rw [parse_eq_unparsable_iff, decode_of_sound document' sound', refused]
      rfl
    · rw [ParseCause.detail, Schema.Fault.map, same]
      rfl
  · intro one two adds sound same same'
    have carried := Schema.carry_readManifest_of_sameValue same (Region.span source.toList)
      fun _ => default
    have carried' := Schema.carry_readManifest_of_sameValue same' (Region.span other.toList)
      fun _ => default
    -- Both values are read as one manifest or refused for one problem.
    refine sameOutcome_of_read (withoutPlaces_read_of_carry document document' ?_ ?_ filename)
    · rw [sound, sound']
    · rw [carried, carried', Schema.readManifest_of_addsMemberKeys adds]

/-- A misspelled key of the settings is told, and a member of two keys too many is as before. -/
theorem unknown_key_is_told_outside_members_of_two :
    (∃ fault,
      (parse "[config]\nblok=1\nindent=4" defaultName).value =
          .error (.unparsable defaultName (.unfit fault)) ∧
        (ParseCause.unfit fault).detail = some ("unknown field " ++ Schema.quoted "blok" ++
          ", expected " ++ Schema.oneOf Schema.Part.settings.fields)) ∧
      SameOutcome (parse "declarations=[\x7bmembers=[\x7bname='A'\x7d]\x7d]" defaultName)
        (parse "declarations=[\x7bmembers=[\x7ba=1,name='A',nam=[]\x7d]\x7d]" defaultName) := by
  refine ⟨?_, ?_⟩
  · -- The sources are variables here, so that only the kernel computes with them.
    generalize one : "[config]\nindent=4" = source
    generalize two : "[config]\nblok=1\nindent=4" = other
    have decoded : ∃ manifest, decode source = .ok manifest := by
      have seen : (decode source).toOption.isSome := by
        subst one
        decide +kernel
      cases decoded : decode source with
      | error cause => simp [decoded, Except.toOption] at seen
      | ok manifest => exact ⟨manifest, rfl⟩
    obtain ⟨tree, document, -, before⟩ := exists_sound_sameValue source
      ((Schema.Place.settings (.table () [] ⟨"config", ()⟩ []) rfl).fill
        (.table () ([] ++ [(⟨"indent", ()⟩, .integer () 4)]))) (by subst one; decide +kernel)
    obtain ⟨tree', document', sound', after⟩ := exists_sound_sameValue other
      ((Schema.Place.settings (.table () [] ⟨"config", ()⟩ []) rfl).fill
        (.table () ([] ++ (⟨"blok", ()⟩, .integer () 1) :: [(⟨"indent", ()⟩, .integer () 4)])))
      (by subst two; decide +kernel)
    exact (unknown_key_is_told_outside_members document document' sound' defaultName).1 .settings
      (.settings (.table () [] ⟨"config", ()⟩ []) rfl) [] [(⟨"indent", ()⟩, .integer () 4)]
      ⟨"blok", ()⟩ (.integer () 1) (by decide) (by decide) decoded before after
  · generalize one : "declarations=[\x7bmembers=[\x7bname='A'\x7d]\x7d]" = source
    generalize two : "declarations=[\x7bmembers=[\x7ba=1,name='A',nam=[]\x7d]\x7d]" = other
    obtain ⟨place, filled⟩ : ∃ place : Schema.Place Unit .member, place.fill = fun value =>
        .table () [(⟨"declarations", ()⟩, .sequence () [.table () [(⟨"members", ()⟩,
          .sequence () [value])]])] :=
      ⟨.member (.entry (.table () [] ⟨"declarations", ()⟩ []) rfl () [] [])
        (.table () [] ⟨"members", ()⟩ []) rfl () [] [], rfl⟩
    obtain ⟨tree, document, sound, same⟩ := exists_sound_sameValue source
      (place.fill (.table () [(⟨"name", ()⟩, .text () "A")]))
      (by subst one; rw [filled]; decide +kernel)
    obtain ⟨tree', document', sound', same'⟩ := exists_sound_sameValue other
      (place.fill (.table () [(⟨"a", ()⟩, .integer () 1), (⟨"name", ()⟩, .text () "A"),
        (⟨"nam", ()⟩, .sequence () [])])) (by subst two; rw [filled]; decide +kernel)
    -- Two keys are added to the member, one on each side of its field.
    have first := Schema.AddsMemberKey.add place () [] [(⟨"name", ()⟩, .text () "A")] ⟨"a", ()⟩
      (.integer () 1) (by decide) rfl
    have second := Schema.AddsMemberKey.add place ()
      [(⟨"a", ()⟩, .integer () 1), (⟨"name", ()⟩, .text () "A")] [] ⟨"nam", ()⟩ (.sequence () [])
      (by decide) rfl
    exact (unknown_key_is_told_outside_members document document' sound' defaultName).2 _ _
      (.tail (.single first) second) sound same same'

end Manifest

end DeclGen
