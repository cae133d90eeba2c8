import DeclGen.Proofs.Manifest.Decoding
import DeclGen.Proofs.Schema.Places
import DeclGen.Proofs.Toml.Placement

/-! Positions that diagnostics show are sound: names and faults stand where they are said to. -/

namespace DeclGen

/-- A range of bytes of a text that holds one string literal and nothing else. -/
structure Span.HoldsLiteral (span : Span) (source value : String) : Prop where
  /-- The range lies in the text. -/
  within : span.Within source
  /-- It is not empty. -/
  nonempty : span.start < span.stop
  /-- Its bytes are those of a literal, with its quotes, that decodes to the value. -/
  literal : ∃ literal : String, Toml.IsLiteral literal.toList value ∧
    source.toByteArray.extract span.start span.stop = literal.toByteArray

/-- A part that is a literal takes the bytes of one. -/
theorem Region.Within.holdsLiteral {region : Region} {source value : String}
    (within : region.Within source.toList) (literal : Toml.IsLiteral region.text value) :
    (region.span source.toList).HoldsLiteral source value where
  within := within.span
  nonempty := within.span_lt literal.ne_nil
  literal := ⟨String.ofList region.text, by rwa [String.toList_ofList], within.extract⟩

namespace Manifest

variable {source filename : String}

/-- The labels of an entry that contradicts itself are that of its name, if it has one. -/
theorem labels_invalid (sourceName : String) (name : Option (Located String))
    (cause : Contradiction) :
    (ManifestError.invalid sourceName name cause).labels =
      (name.map fun name => Label.mk (cause.message name.value) name.span).toList := by
  cases name <;> rfl

/-- The name of every entry that is decoded stands as a literal where it is said to. -/
theorem holdsLiteral_of_decode {manifest : Manifest} (decoded : decode source = .ok manifest)
    {entry : Entry} (member : entry ∈ manifest.entries) {name : Located String}
    (named : entry.name = some name) : name.span.HoldsLiteral source name.value := by
  obtain ⟨tree, document, taken⟩ := (decode_eq_ok_iff source manifest).mp decoded
  have placed := Toml.placed_of_read document
  -- A name is the text at some label of the tree, which is the part that it was read from.
  obtain ⟨region, within, literal, same⟩ :=
    Schema.namePlaced_of_readManifest placed taken entry member name named
  exact same ▸ within.holdsLiteral literal

/-- Data that has not the shape of a manifest is told about at a part of the text. -/
theorem within_of_decode {fault : Schema.Fault Span}
    (refused : decode source = .error (.unfit fault)) :
    fault.label.Within source := by
  unfold decode at refused
  split at refused
  · cases refused
  next tree document =>
    split at refused
    · cases refused
    next found taken =>
      split at refused
      · -- The label of the fault is one of the tree, whose labels all lie in the text.
        cases refused
        have placed := Toml.placed_of_read document
        exact (Schema.right_of_readManifest placed taken).span
      · cases refused

/-- A cause in the text is told about only where decoding fails for it. -/
theorem decode_of_unparsable {sourceName : String} {cause : ParseCause}
    (refused : (parse source filename).value = .error (.unparsable sourceName cause)) :
    decode source = .error cause := by
  rw [parse_value, read] at refused
  cases decoded : decode source with
  | error other =>
    simp only [decoded, Except.error.injEq, ManifestError.unparsable.injEq] at refused
    exact congrArg Except.error refused.2
  | ok manifest =>
    -- What is decoded can only be refused for a contradiction.
    simp only [decoded, validate] at refused
    split at refused <;> simp [Bind.bind, Except.bind, Pure.pure, Except.pure] at refused

/-- A contradiction is told about the first entry of a decoded manifest that has one. -/
theorem exists_of_invalid {sourceName : String} {name : Option (Located String)}
    {cause : Contradiction}
    (refused : (parse source filename).value = .error (.invalid sourceName name cause)) :
    ∃ manifest before entry after, decode source = .ok manifest ∧
      manifest.entries = before ++ entry :: after ∧
      (∀ earlier ∈ before, earlier.contradiction = none) ∧
      entry.contradiction = some cause ∧ entry.name = name := by
  rw [parse_value, read] at refused
  cases decoded : decode source with
  | error other => simp [decoded] at refused
  | ok manifest =>
    simp only [decoded, validate] at refused
    split at refused
    next entry found first =>
      -- The search stops at the first entry with a cause, and has found none before it.
      obtain ⟨before, other, after, split, here, earlier⟩ := List.findSome?_eq_some_iff.mp first
      obtain ⟨reason, contradicts, same⟩ := Option.map_eq_some_iff.mp here
      cases same
      cases refused
      exact ⟨manifest, before, entry, after, rfl, split, by simpa using earlier, contradicts, rfl⟩
    next => cases refused

/-- The name that a contradiction is told about stands as a literal where it is said to. -/
theorem holdsLiteral_of_invalid {sourceName : String} {name : Located String}
    {cause : Contradiction}
    (refused : (parse source filename).value = .error (.invalid sourceName (some name) cause)) :
    name.span.HoldsLiteral source name.value := by
  -- The manifest was decoded before it was refused, so its names are sound already.
  obtain ⟨manifest, before, entry, after, decoded, split, -, -, named⟩ := exists_of_invalid refused
  exact holdsLiteral_of_decode decoded (by simp [split]) named

/--
All positions are sound, those of names that are taken and those that errors show.

A name stands as a literal in its bytes. A label of an error lies in the text, and what validation
refuses is labelled with the name of the first entry that contradicts itself, or not at all.
-/
theorem positions_sound (source filename : String) :
    (∀ manifest, (parse source filename).value = .ok manifest →
      ∀ entry ∈ manifest.entries, ∀ name, entry.name = some name →
        name.span.HoldsLiteral source name.value) ∧
    (∀ error, (parse source filename).value = .error error →
      ∀ label ∈ error.labels, label.span.Within source) ∧
    ∀ sourceName name cause,
      (parse source filename).value = .error (.invalid sourceName name cause) →
        ∃ manifest before entry after, decode source = .ok manifest ∧
          manifest.entries = before ++ entry :: after ∧
          (∀ earlier ∈ before, earlier.contradiction = none) ∧
          entry.contradiction = some cause ∧ entry.name = name ∧
          (ManifestError.invalid sourceName name cause).labels =
            (name.map fun name => ⟨cause.message name.value, name.span⟩).toList ∧
          ∀ located, name = some located → located.span.HoldsLiteral source located.value := by
  refine ⟨fun manifest accepted entry member name named => ?_, fun error refused label shown => ?_,
    fun sourceName name cause refused => ?_⟩
  · rw [parse_value, read_eq_ok_iff] at accepted
    exact holdsLiteral_of_decode accepted.1 member named
  · -- An error has a label only for a fault of the data, or for the name of an entry.
    match error with
    | .unreadable _ _ | .unparsable _ .malformed | .invalid _ none _ => cases shown
    | .unparsable sourceName (.unfit fault) =>
      obtain rfl := List.mem_singleton.mp shown
      exact within_of_decode (decode_of_unparsable refused)
    | .invalid sourceName (some name) cause =>
      obtain rfl := List.mem_singleton.mp shown
      exact (holdsLiteral_of_invalid refused).within
  · obtain ⟨manifest, before, entry, after, decoded, split, earlier, contradicts, named⟩ :=
      exists_of_invalid refused
    refine ⟨manifest, before, entry, after, decoded, split, earlier, contradicts, named,
      labels_invalid sourceName name cause, ?_⟩
    rintro located rfl
    exact holdsLiteral_of_invalid refused

/--
Positions count bytes, behind a byte order mark and characters of several bytes too.

One text is taken, one has an unknown key, and one has members that no enum holds.
-/
theorem positions_sound_of_three :
    (∃ manifest entry,
      (parse "\uFEFF# é\n[[declarations]]\nname = '''ü\"x'''" defaultName).value = .ok manifest ∧
        entry ∈ manifest.entries ∧ entry.name = some ⟨"ü\"x", ⟨32, 42⟩⟩ ∧
        Span.HoldsLiteral ⟨32, 42⟩ "\uFEFF# é\n[[declarations]]\nname = '''ü\"x'''" "ü\"x") ∧
    (∃ error, (parse "\"é\" = 1" defaultName).value = .error error ∧
      ⟨"parse error here", ⟨0, 4⟩⟩ ∈ error.labels ∧ Span.Within ⟨0, 4⟩ "\"é\" = 1") ∧
    ∃ error,
      (parse "[[declarations]]\nname = 'é'\nmembers = [['A', '1']]" defaultName).value =
        .error error ∧
      error.labels = [⟨"'é' has members but is not an enum", ⟨24, 28⟩⟩] ∧
      Span.HoldsLiteral ⟨24, 28⟩ "[[declarations]]\nname = 'é'\nmembers = [['A', '1']]" "é" := by
  refine ⟨?_, ?_, ?_⟩
  · have sound := (positions_sound "\uFEFF# é\n[[declarations]]\nname = '''ü\"x'''" defaultName).1
    have seen : ((parse "\uFEFF# é\n[[declarations]]\nname = '''ü\"x'''" defaultName).value.map
          fun manifest => manifest.entries.map (·.name)).toOption =
        some [some ⟨"ü\"x", ⟨32, 42⟩⟩] := by
      decide +kernel
    cases accepted : (parse "\uFEFF# é\n[[declarations]]\nname = '''ü\"x'''" defaultName).value with
    | error error => simp [accepted, Except.map, Except.toOption] at seen
    | ok manifest =>
      -- The only entry is the one that is seen.
      simp only [accepted, Except.map, Except.toOption, Option.some.injEq] at seen
      obtain ⟨entry, rest, split, named, -⟩ := List.map_eq_cons_iff.mp seen
      have member : entry ∈ manifest.entries := by simp [split]
      exact ⟨manifest, entry, rfl, member, named, sound manifest accepted entry member _ named⟩
  · have sound := (positions_sound "\"é\" = 1" defaultName).2.1
    -- The error is computed, and the theorem says where its label stands.
    have refused : (parse "\"é\" = 1" defaultName).value =
        .error (.unparsable defaultName
          (.unfit ⟨.unknownField "é" ["config", "declarations"], ⟨0, 4⟩⟩)) :=
      eq_error_of_map (fun _ => ()) (by decide +kernel)
    exact ⟨_, refused, List.mem_singleton_self _, sound _ refused _ (List.mem_singleton_self _)⟩
  · have sound :=
      (positions_sound "[[declarations]]\nname = 'é'\nmembers = [['A', '1']]" defaultName).2.2
    have refused :
        (parse "[[declarations]]\nname = 'é'\nmembers = [['A', '1']]" defaultName).value =
          .error (.invalid defaultName (some ⟨"é", ⟨24, 28⟩⟩) .membersOutsideEnum) :=
      eq_error_of_map (fun _ => ()) (by decide +kernel)
    obtain ⟨-, -, -, -, -, -, -, -, -, labels, literal⟩ := sound _ _ _ refused
    exact ⟨_, refused, labels, literal _ rfl⟩

end Manifest

end DeclGen
