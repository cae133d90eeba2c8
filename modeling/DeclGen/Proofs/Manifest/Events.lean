import DeclGen.Manifest.File
import DeclGen.Proofs.Manifest.Conversion
import DeclGen.Proofs.Manifest.Validation

/-!
What is logged about a manifest: that it is read, that it was parsed, and which kinds are not known.

Parsing logs one event on success and nothing else. A conversion warns about each entry whose kind
it drops, in the order of the entries, and every further conversion does so again.
-/

namespace DeclGen

/-- What an event tells: its level, its sentence and the values it carries. -/
abbrev ToldEvent : Type := LogLevel × String × List (String × LogValue)

/-- An event as it is told. -/
def LogEvent.told (event : LogEvent) : ToldEvent :=
  (event.level, event.message, event.fields)

/-- A warning about a kind quotes it as it is written, and carries the name of its entry. -/
theorem LogEvent.told_unknownKind (unknown : UnknownKind) (name : String) :
    (LogEvent.unknownKind unknown.message name).told =
      (.warn, "unknown declaration kind '" ++ unknown.text ++ "', rendering without a kind",
        [("declaration", .text name)]) := by
  have sentence : unknown.message ++ ", rendering without a kind" =
      "unknown declaration kind '" ++ unknown.text ++ "', rendering without a kind" := by
    unfold UnknownKind.message
    rw [String.append_assoc]
    rfl
  exact congrArg (fun text => (LogLevel.warn, text, [("declaration", LogValue.text name)])) sentence

namespace Logged

variable {α β : Type}

/-- The events of a run as they are told. -/
def log (run : Logged α) : List ToldEvent :=
  run.events.map LogEvent.told

/-- Changing a result logs nothing. -/
@[simp] theorem log_map (f : α → β) (run : Logged α) : (run.map f).log = run.log := rfl

/-- What is logged by the second of two runs follows what is logged by the first. -/
@[simp] theorem log_andThen (run : Logged α) (next : α → Logged β) :
    (run.andThen next).log = run.log ++ (next run.value).log := by
  simp [log, andThen]

/-- A step for every item logs what it logs for each of them, in their order. -/
theorem log_each (step : α → Logged β) (items : List α) :
    (each step items).log = items.flatMap fun item => (step item).log := by
  simp [log, each, List.map_flatMap]

end Logged

namespace Entry

variable {entry : Entry}

/-- The warning about the kind of an entry, if it has one written that is not known. -/
def warning? (entry : Entry) : Option ToldEvent :=
  match entry.kind with
  | none => none
  | some kind =>
    if kind ∈ Kind.spellings then none
    else some (.warn, "unknown declaration kind '" ++ kind ++ "', rendering without a kind",
      [("declaration", .text entry.displayName)])

/-- A kind that is written is warned about unless it names one. -/
theorem warning?_of_kind {kind : String} (written : entry.kind = some kind) :
    entry.warning? =
      if kind ∈ Kind.spellings then none
      else some (.warn, "unknown declaration kind '" ++ kind ++ "', rendering without a kind",
        [("declaration", .text entry.displayName)]) := by
  simp only [warning?, written]

/-- A warning about a kind is told with the text of the kind and the name of its entry. -/
theorem map_told_warnings (entry : Entry) :
    entry.warnings.map LogEvent.told = entry.warning?.toList := by
  cases written : entry.kind with
  | none => simp [warnings, parsedKind, warning?, written]
  | some text =>
    rw [warning?_of_kind written]
    cases parsed : Kind.parse text with
    | ok kind =>
      -- A kind that is known gives no warning, in the log or in what is told.
      have known : text ∈ Kind.spellings := (Kind.exists_parse_eq_ok_iff text).mp ⟨kind, parsed⟩
      simp [warnings, parsedKind, written, parsed, Except.map, known]
    | error unknown =>
      -- A kind that is not known gives one, whose text is that of the error.
      obtain ⟨strange, same⟩ := (Kind.parse_eq_error_iff text unknown).mp parsed
      have warned : entry.warnings = [.unknownKind unknown.message entry.displayName] := by
        simp [warnings, parsedKind, written, parsed, Except.map]
      rw [warned, List.map_singleton, LogEvent.told_unknownKind, same, if_neg strange]
      rfl

/-- A kind is dropped by the conversion exactly if there is a warning about it. -/
theorem warning?_ne_none_iff (settings : Settings) (entry : Entry) :
    entry.warning? ≠ none ↔
      entry.kind ≠ none ∧ (entry.toDeclaration settings).value.kind = none := by
  have kind : (entry.toDeclaration settings).value.kind = entry.knownKind :=
    record_kind settings entry
  rw [kind]
  cases written : entry.kind with
  | none => simp [warning?, written]
  | some text =>
    -- The record has a kind if the text names one, and then there is no warning.
    have known : entry.knownKind ≠ none ↔ text ∈ Kind.spellings := by
      rw [← Kind.exists_parse_eq_ok_iff, Option.ne_none_iff_exists']
      simp [knownKind_eq_some_iff, written]
    rw [warning?_of_kind written]
    by_cases named : text ∈ Kind.spellings
    · simp [named, known.mpr named]
    · simp [named, not_not.mp (known.not.mpr named)]

/-- An entry with members is accepted as an enum only, which is a known kind. -/
theorem members_eq_nil_of_warning? (consistent : entry.contradiction = none)
    (warned : entry.warning? ≠ none) : entry.members = [] := by
  by_contra listed
  obtain ⟨kind, -⟩ := (contradiction_eq_none_iff entry).mp consistent listed
  rw [warning?_of_kind kind] at warned
  exact warned (if_pos (by decide))

end Entry

namespace Manifest

/-- The warnings about the entries of a manifest, in their order. -/
def warnings (manifest : Manifest) : List ToldEvent :=
  manifest.entries.filterMap Entry.warning?

/-- Converting a manifest logs the warnings about its entries and nothing else. -/
theorem log_toDeclarations (manifest : Manifest) :
    manifest.toDeclarations.log = manifest.warnings := by
  have each : ∀ entry : Entry, (entry.toDeclaration manifest.settings).log =
      entry.warning?.toList := Entry.map_told_warnings
  rw [toDeclarations, Logged.log_each, warnings, List.filterMap_eq_flatMap_toList]
  exact List.flatMap_congr fun entry _ => each entry

/-- Rendering converts the manifest once. -/
theorem log_render (manifest : Manifest) : manifest.render.log = manifest.warnings := by
  rw [render, Logged.log_map, log_toDeclarations]

/-- A manifest is rendered a number of times, one after the other. -/
def renderings (manifest : Manifest) : Nat → Logged (List String)
  | 0 => ⟨[], []⟩
  | times + 1 => manifest.render.andThen fun text => (manifest.renderings times).map (text :: ·)

/-- Every rendering gives the same module. -/
theorem value_renderings (manifest : Manifest) (times : Nat) :
    (manifest.renderings times).value = List.replicate times manifest.render.value := by
  induction times with
  | zero => rfl
  | succ times ih => rw [List.replicate_succ, ← ih]; rfl

/-- Every rendering logs all warnings again. -/
theorem log_renderings (manifest : Manifest) (times : Nat) :
    (manifest.renderings times).log = (List.replicate times manifest.warnings).flatten := by
  -- Every rendering converts all entries again, and so repeats their warnings.
  induction times with
  | zero => rfl
  | succ times ih =>
    rw [renderings, Logged.log_andThen, Logged.log_map, ih, log_render, List.replicate_succ,
      List.flatten_cons]

/-- Parsing logs its success, and nothing where it fails. -/
theorem log_parse (source filename : String) :
    (parse source filename).log =
      match (parse source filename).value with
      | .ok manifest =>
        [(.debug, "parsed manifest",
          [("filename", .text filename), ("declarations", .count manifest.entries.length)])]
      | .error _ => [] := by
  unfold parse
  cases read source filename <;> rfl

/-- Parsing fails at one of three stages: at the document, at its schema or in validation. -/
theorem parse_fails_iff (source filename : String) :
    (∃ error, (parse source filename).value = .error error) ↔
      decode source = .error .malformed ∨ (∃ fault, decode source = .error (.unfit fault)) ∨
        ∃ manifest error, decode source = .ok manifest ∧
          manifest.validate filename = .error error := by
  rw [parse_value, read]
  -- What is decoded can still contradict itself.
  cases decoded : decode source with
  | error cause => cases cause <;> simp
  | ok manifest =>
    cases valid : manifest.validate filename <;>
      simp [valid, Bind.bind, Except.bind, Pure.pure, Except.pure]

end Manifest

/-- Opening a file logs that it is read, and then what parsing logs, if there is a text to parse. -/
theorem ManifestFile.log_load (path : String) (content : Except FileFailure String) :
    (load path content).log =
      (.debug, "reading manifest", [("path", .path path)]) ::
        match content with
        | .error _ => []
        | .ok text => (Manifest.parse text path).log := by
  rw [load, Logged.log_andThen]
  cases content <;> rfl

namespace Manifest

/--
The log of a manifest says what happened to it, in order, and nothing else.

Parsing logs one event where it succeeds and none where it fails, at whatever stage. A conversion
warns about the entries whose kind is written and not known, which are those whose records have none
although one is written; it does so in their order, with the kind and the name as they stand. So a
number of renderings repeats the warnings as often, and no entry that is warned about has members if
it was accepted. A file that is opened is first said to be read, even if it cannot be.
-/
theorem log_tells_what_happened :
    (∀ source filename : String,
        (parse source filename).log =
            (match (parse source filename).value with
            | .ok manifest =>
              [(.debug, "parsed manifest",
                [("filename", .text filename), ("declarations", .count manifest.entries.length)])]
            | .error _ => []) ∧
          ((∃ error, (parse source filename).value = .error error) ↔
            decode source = .error .malformed ∨ (∃ fault, decode source = .error (.unfit fault)) ∨
              ∃ manifest error, decode source = .ok manifest ∧
                manifest.validate filename = .error error) ∧
          ∀ event ∈ (parse source filename).log, event.1 ≠ .warn) ∧
      (∀ manifest : Manifest,
        manifest.toDeclarations.log = manifest.entries.filterMap Entry.warning? ∧
          manifest.render.log = manifest.entries.filterMap Entry.warning? ∧
          ∀ times, (manifest.renderings times).value =
              List.replicate times manifest.render.value ∧
            (manifest.renderings times).log =
              (List.replicate times (manifest.entries.filterMap Entry.warning?)).flatten) ∧
      (∀ entry : Entry,
        entry.warning? =
            (match entry.kind with
            | none => none
            | some kind =>
              if kind ∈ ["plain", "class", "enum", "union", "scalar"] then none
              else some
                (.warn, "unknown declaration kind '" ++ kind ++ "', rendering without a kind",
                  [("declaration", .text entry.displayName)])) ∧
          ∀ settings, entry.warning? ≠ none ↔
            entry.kind ≠ none ∧ (entry.toDeclaration settings).value.kind = none) ∧
      (∀ source filename manifest, (parse source filename).value = .ok manifest →
        ∀ entry ∈ manifest.entries, entry.warning? ≠ none → entry.members = []) ∧
      ∀ (files : FileTree) (path : String),
        (ManifestFile.fromTree files path).log =
          (.debug, "reading manifest", [("path", .path path)]) ::
            match files.read path with
            | .error _ => []
            | .ok content => (parse content path).log := by
  refine ⟨fun source filename => ⟨log_parse _ _, parse_fails_iff _ _, fun event logged => ?_⟩,
    fun manifest => ⟨log_toDeclarations _, log_render _, fun times =>
      ⟨value_renderings _ _, log_renderings _ _⟩⟩,
    fun entry => ⟨rfl, fun settings => Entry.warning?_ne_none_iff _ _⟩,
    fun source filename manifest accepted entry member warned => ?_,
    fun files path => ManifestFile.log_load path (files.read path)⟩
  · -- The only event of parsing is not a warning.
    rw [log_parse] at logged
    split at logged
    · simp_all
    · simp at logged
  · exact Entry.members_eq_nil_of_warning? (consistent_of_parse accepted entry member) warned

/--
Two of three kinds are not known, one of them because it is empty; two renderings warn about both
twice, and a file that is not there is said to be read.
-/
theorem log_tells_what_happened_of_three :
    let source := "[[declarations]]\nkind='Enum'\nname='A'\n[[declarations]]\nkind='class'\n" ++
      "[[declarations]]\nkind=''"
    let first : Entry := { kind := some "Enum", name := some ⟨"A", ⟨34, 37⟩⟩ }
    let one : ToldEvent := (.warn, "unknown declaration kind 'Enum', rendering without a kind",
      [("declaration", .text "A")])
    let two : ToldEvent := (.warn, "unknown declaration kind '', rendering without a kind",
      [("declaration", .text "")])
    ∃ manifest, (parse source "a.toml").value = .ok manifest ∧
      manifest.entries = [first, { kind := some "class" }, { kind := some "" }] ∧
      (parse source "a.toml").log =
        [(.debug, "parsed manifest", [("filename", .text "a.toml"), ("declarations", .count 3)])] ∧
      (manifest.renderings 2).log = [one, two, one, two] ∧
      first.warning? = some one ∧ (first.toDeclaration manifest.settings).value.kind = none ∧
      first.members = [] ∧
      (ManifestFile.fromTree {} "a.toml").log =
        [(.debug, "reading manifest", [("path", .path "a.toml")])] := by
  intro source first one two
  obtain ⟨parsing, converting, warned, accepting, opening⟩ := log_tells_what_happened
  obtain ⟨manifest, accepted, seen⟩ : ∃ manifest, (parse source "a.toml").value = .ok manifest ∧
      manifest.entries = [first, { kind := some "class" }, { kind := some "" }] :=
    exists_of_seen (by decide +kernel)
  have member : first ∈ manifest.entries := by simp [seen]
  have strange : first.warning? = some one := rfl
  have warns : first.warning? ≠ none := by simp [strange]
  refine ⟨manifest, accepted, seen, ?_, ?_, strange, ((warned first).2 _ |>.mp warns).2,
    accepting source "a.toml" manifest accepted first member warns, opening {} "a.toml"⟩
  · rw [(parsing source "a.toml").1, accepted]
    simp only [seen, List.length_cons, List.length_nil]
  · rw [((converting manifest).2.2 2).2, seen]
    rfl

end Manifest

end DeclGen
