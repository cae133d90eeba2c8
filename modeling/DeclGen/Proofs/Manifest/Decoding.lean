import DeclGen.Proofs.Manifest.Validation
import DeclGen.Proofs.Schema.ManifestFaults

/-! A document gets past the schema if it has no faults, and else fails with the first of them. -/

namespace DeclGen

/--
A document of which every part can be read.

No number in it is out of range, and the key of dates and times has one behind it.
-/
structure Toml.Readable {L : Type} (tree : Tree L) : Prop where
  /-- The document can be read without a schema. -/
  sound : isSoundDocument tree = true
  /-- Every number has a value. -/
  valued : tree.skippable = true

namespace Manifest

variable {source : String} {tree : Tree Region}

/-- A sound document is decoded, or refused for the reason that the schema refuses its tree. -/
theorem decode_of_sound (document : Toml.Document.read source.toList = some tree)
    (sound : Toml.isSoundDocument tree = true) :
    decode source =
      (Schema.readManifest (Region.span source.toList) tree).mapError
        fun fault => .unfit (fault.map (Region.span source.toList)) := by
  simp only [decode, document]
  cases Schema.readManifest (Region.span source.toList) tree with
  | ok manifest => rfl
  | error fault => simp [sound, Except.mapError]

/-- A readable document is decoded, or refused for the reason that the schema refuses its tree. -/
theorem decode_of_readable (document : Toml.Document.read source.toList = some tree)
    (readable : Toml.Readable tree) :
    decode source =
      (Schema.readManifest (Region.span source.toList) tree).mapError
        fun fault => .unfit (fault.map (Region.span source.toList)) :=
  decode_of_sound document readable.sound

/-- A text is decoded exactly where it is a document that the schema takes for a manifest. -/
theorem decode_eq_ok_iff (source : String) (manifest : Manifest) :
    decode source = .ok manifest ↔
      ∃ tree, Toml.Document.read source.toList = some tree ∧
        Schema.readManifest (Region.span source.toList) tree = .ok manifest := by
  unfold decode
  cases Toml.Document.read source.toList with
  | none => simp
  | some tree =>
    cases taken : Schema.readManifest (Region.span source.toList) tree with
    | ok other => simp [taken]
    | error fault =>
      simp only [Option.some.injEq, exists_eq_left', taken, reduceCtorEq, iff_false]
      -- A refusal is told in one of two ways, and neither of them gives a manifest.
      split <;> simp

/-- Parsing fails for a cause in the text exactly where decoding does, whatever the validation. -/
theorem parse_eq_unparsable_iff (source filename : String) (cause : ParseCause) :
    (parse source filename).value = .error (.unparsable filename cause) ↔
      decode source = .error cause := by
  rw [parse_value, read]
  cases decode source with
  | error other => simp
  | ok manifest =>
    -- A contradiction is another sort of error than a cause in the text.
    simp only [reduceCtorEq, iff_false]
    unfold validate
    split <;> simp [Bind.bind, Except.bind, Pure.pure, Except.pure]

/--
A readable document is decoded exactly when it has no faults, and else its first fault is told.

The faults are those that the whole document has; where one of them is told, it is told with its own
message and at its own place.
-/
theorem parse_fails_at_first_fault (document : Toml.Document.read source.toList = some tree)
    (readable : Toml.Readable tree) (filename : String) :
    ((∃ manifest, decode source = .ok manifest) ↔ Schema.manifestLayout.faults tree = []) ∧
      ∀ cause, (parse source filename).value = .error (.unparsable filename cause) ↔
        ∃ fault, (Schema.manifestLayout.faults tree).head? = some fault ∧
          cause = .unfit (fault.map (Region.span source.toList)) ∧
          cause.detail = some (fault.problem.message .positional) ∧
          (ManifestError.unparsable filename cause).labels =
            [⟨"parse error here", fault.label.span source.toList⟩] := by
  -- The reader refuses with the first fault of the traversal, so it succeeds where there is none.
  have first := Schema.refuses_readManifest (Region.span source.toList) tree readable.valued
  have decoded := decode_of_readable document readable
  constructor
  · rw [← List.head?_eq_none_iff, ← first, Schema.refusal_eq_none_iff, decoded]
    cases Schema.readManifest (Region.span source.toList) tree <;> simp [Except.mapError]
  · intro cause
    rw [parse_eq_unparsable_iff, decoded, ← first]
    cases Schema.readManifest (Region.span source.toList) tree with
    | ok manifest => simp [Except.mapError]
    | error fault =>
      simp only [Except.mapError, Except.error.injEq, Schema.refusal_error, Option.some.injEq]
      constructor
      · rintro rfl
        exact ⟨fault, rfl, rfl, rfl, rfl⟩
      · rintro ⟨other, rfl, same, -⟩
        exact same.symm

/-- Of eight faults the one of the settings is told, although they stand last. -/
theorem parse_fails_at_first_of_eight :
    ∃ tree fault,
      Toml.Document.read
          "declarations=[{zz=1,name=2,members=[[1],{x=1}]}]\n[config]\nindent=3\nblok=1".toList =
        some tree ∧
      Toml.Readable tree ∧
      (Schema.manifestLayout.faults tree).length = 8 ∧
      fault.problem =
        .unknownField "blok" ["block_wrapper", "enum_name_value_separator", "indent"] ∧
      (parse "declarations=[{zz=1,name=2,members=[[1],{x=1}]}]\n[config]\nindent=3\nblok=1"
          defaultName).value =
        .error (.unparsable defaultName (.unfit fault)) := by
  -- The tree is only looked at through what the theorem asks for.
  generalize text : "declarations=[{zz=1,name=2,members=[[1],{x=1}]}]\n[config]\nindent=3\nblok=1" =
    source
  have seen : (Toml.Document.read source.toList).map (fun tree =>
        ((Toml.isSoundDocument tree, tree.skippable), (Schema.manifestLayout.faults tree).length,
          (Schema.manifestLayout.faults tree).head?.map (·.problem))) =
      some ((true, true), 8, some (.unknownField "blok"
        ["block_wrapper", "enum_name_value_separator", "indent"])) := by
    subst text
    decide +kernel
  cases document : Toml.Document.read source.toList with
  | none => simp [document] at seen
  | some tree =>
    simp only [document, Option.map_some, Option.some.injEq, Prod.mk.injEq] at seen
    obtain ⟨⟨sound, valued⟩, length, first⟩ := seen
    obtain ⟨fault, head, problem⟩ := Option.map_eq_some_iff.mp first
    have told := (parse_fails_at_first_fault document ⟨sound, valued⟩ defaultName).2
    exact ⟨tree, fault.map (Region.span source.toList), rfl, ⟨sound, valued⟩, length, problem,
      (told _).mpr ⟨fault, head, rfl, rfl, rfl⟩⟩

end Manifest

end DeclGen
