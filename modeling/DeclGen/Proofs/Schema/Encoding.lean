import DeclGen.Proofs.Schema.Describable
import DeclGen.Proofs.Schema.ManifestLabels
import DeclGen.Proofs.Toml.Writer

/-!
Manifests as data.

Records are tables whose keys come in order, and an optional field that is absent has no key.
Whatever is encoded can be written, and is read as it was, up to the places of names.
-/

namespace DeclGen.Schema

/-- The pairs of a table, from its keys in order and the values of those that are there. -/
def present (fields : List (String × Option (Tree Unit))) : List (Key Unit × Tree Unit) :=
  fields.filterMap fun (name, value) => value.map fun value => (⟨name, ()⟩, value)

/-- The width that names a unit. -/
def widthOf : Indent → Int
  | .tab => 0
  | .spaces width => width.toNat

/-- The fields of the shared settings. -/
def settingsFields (settings : Settings) : List (String × Option (Tree Unit)) := [
  ("block_wrapper", some (.text () settings.blockWrapper)),
  ("enum_name_value_separator", some (.text () settings.memberSeparator)),
  ("indent", some (.integer () (widthOf settings.indent)))]

/-- The shared settings as data. -/
def encodeSettings (settings : Settings) : Tree Unit :=
  .table () (present (settingsFields settings))

/-- The fields of a member. -/
def memberFields (member : Member) : List (String × Option (Tree Unit)) := [
  ("comment", member.comment.map (.text ())),
  ("name", some (.text () member.name)),
  ("value", some (.text () member.value))]

/-- A member as data. -/
def encodeMember (member : Member) : Tree Unit := .table () (present (memberFields member))

/-- The fields of an entry. -/
def entryFields (entry : Entry) : List (String × Option (Tree Unit)) := [
  ("block", entry.block.map (.text ())),
  ("comment", entry.comment.map (.text ())),
  ("content", entry.content.map (.text ())),
  ("decorator", entry.decorator.map (.text ())),
  ("generics", entry.generics.map (.text ())),
  ("ignore_block_wrapper", some (.boolean () entry.ignoreBlockWrapper)),
  ("kind", entry.kind.map (.text ())),
  ("members", some (.sequence () (entry.members.map encodeMember))),
  ("method", entry.method.map (.text ())),
  ("name", (entry.name.map (·.value)).map (.text ()))]

/-- An entry as data. -/
def encodeEntry (entry : Entry) : Tree Unit := .table () (present (entryFields entry))

/-- The fields of a manifest. -/
def manifestFields (manifest : Manifest) : List (String × Option (Tree Unit)) := [
  ("config", some (encodeSettings manifest.settings)),
  ("declarations", some (.sequence () (manifest.entries.map encodeEntry)))]

/-- The root table of a manifest as data. -/
def encodeManifest (manifest : Manifest) : List (Key Unit × Tree Unit) :=
  present (manifestFields manifest)

/-- The keys of fields come in order. -/
def Ordered (fields : List (String × Option (Tree Unit))) : Prop :=
  (fields.map (·.1)).Pairwise (· < ·)

/-- Settings are written with their names in order. -/
theorem ordered_settingsFields (settings : Settings) : Ordered (settingsFields settings) := by
  simp only [Ordered, settingsFields, List.map_cons, List.map_nil]
  decide +kernel

/-- A member is written with its names in order. -/
theorem ordered_memberFields (member : Member) : Ordered (memberFields member) := by
  simp only [Ordered, memberFields, List.map_cons, List.map_nil]
  decide +kernel

/-- An entry is written with its names in order. -/
theorem ordered_entryFields (entry : Entry) : Ordered (entryFields entry) := by
  simp only [Ordered, entryFields, List.map_cons, List.map_nil]
  decide +kernel

/-- A manifest is written with its names in order. -/
theorem ordered_manifestFields (manifest : Manifest) : Ordered (manifestFields manifest) := by
  simp only [Ordered, manifestFields, List.map_cons, List.map_nil]
  decide +kernel

section Present

variable {R : Type} {shape : Record Unit R} {fields : List (String × Option (Tree Unit))}

/-- Keys that come in order are in order where some of them are not there. -/
theorem pairwise_present (ordered : Ordered fields) :
    (present fields).Pairwise (·.1.name < ·.1.name) := by
  rw [Ordered, List.pairwise_map] at ordered
  -- A field that is there keeps its name, and one that is not leaves nothing behind.
  refine ordered.filterMap _ fun one other before pair made pair' made' => ?_
  obtain ⟨value, -, rfl⟩ := Option.map_eq_some_iff.mp made
  obtain ⟨value', -, rfl⟩ := Option.map_eq_some_iff.mp made'
  exact before

/-- Keys that come in order differ. -/
theorem distinctKeys_present (ordered : Ordered fields) :
    Toml.DistinctKeys (present fields) := by
  rw [Toml.DistinctKeys, List.Nodup, List.pairwise_map]
  refine (pairwise_present ordered).imp fun before same => ?_
  rw [same] at before
  exact String.lt_irrefl _ before

/-- Enters a field into a record, if it is there. -/
def putPresent (shape : Record Unit R) (record : R) (field : String × Option (Tree Unit)) :
    Except (Fault Unit) R :=
  match field.2 with
  | none => .ok record
  | some value => shape.putPair record (⟨field.1, ()⟩, value)

/-- The fields that are there are entered in their order. -/
theorem read_present (ordered : Ordered fields) (start : R) :
    shape.read start (.table () (present fields)) = fields.foldlM (putPresent shape) start := by
  have sorted : sortedByKey (present fields) = present fields := by
    refine sortedByKey_of_pairwise ((pairwise_present ordered).imp fun before => ?_)
    exact String.not_lt.mp (String.lt_asymm before)
  rw [Record.read, sorted]
  -- From here on the order is of no more use, and the fields are taken one by one.
  clear ordered sorted
  induction fields generalizing start with
  | nil => rfl
  | cons field fields ih =>
    obtain ⟨name, _ | value⟩ := field
    · exact ih start
    · have later : ∀ record, (present fields).foldlM shape.putPair record =
          fields.foldlM (putPresent shape) record := ih
      change ((⟨name, ()⟩, value) :: present fields).foldlM shape.putPair start = _
      rw [List.foldlM_cons, List.foldlM_cons]
      exact congrArg _ (funext later)

/-- A record is complete once all its fields are entered, the first of them first. -/
theorem foldlM_putPresent {field : String × Option (Tree Unit)} {record next last : R}
    (here : putPresent shape record field = .ok next)
    (later : fields.foldlM (putPresent shape) next = .ok last) :
    (field :: fields).foldlM (putPresent shape) record = .ok last := by
  rw [List.foldlM_cons, here]
  exact later

/-- Values that are read as they were are read as they were in a row. -/
theorem mapM_encode {α β : Type} {encode : α → Tree Unit}
    {read : Tree Unit → Except (Fault Unit) β} {view : α → β}
    (each : ∀ item, read (encode item) = .ok (view item)) (items : List α) :
    (items.map encode).mapM read = .ok (items.map view) := by
  induction items with
  | nil => rfl
  | cons item items ih =>
    rw [List.map_cons, List.mapM_cons, each, ih]
    rfl

end Present

/-- A width that names a unit is read as that unit. -/
theorem readIndent_widthOf {unit : Indent}
    (named : unit ∈ [.tab, .spaces 2, .spaces 4, .spaces 8]) :
    readIndent () (.integer () (widthOf unit)) = .ok unit := by
  simp only [List.mem_cons, List.not_mem_nil, or_false] at named
  rcases named with rfl | rfl | rfl | rfl <;> rfl

/-- Settings that data can describe are read as they were. -/
theorem readSettings_encodeSettings {settings : Settings}
    (describable : settings.Describable) :
    readSettings .ignored (encodeSettings settings) = .ok settings := by
  have taken : settingsRecord.read {} (encodeSettings settings) = .ok settings := by
    rw [encodeSettings, read_present (ordered_settingsFields _)]
    -- All three keys are there, so nothing of the defaults is left but the transformer.
    obtain ⟨blockWrapper, transformer, memberSeparator, indent⟩ := settings
    have unit := readIndent_widthOf describable.indent
    obtain rfl := describable.transformer
    simp only at unit
    simp [settingsFields, putPresent, Record.putPair, settingsRecord, readText, unit, Tree.label]
    rfl
  rw [readSettings, taken]
  rfl

/-- A member is read as it was. -/
theorem readMember_encodeMember (member : Member) :
    readMember .ignored (encodeMember member) = .ok member := by
  have taken : memberRecord.read {} (encodeMember member) =
      .ok ⟨some member.name, some member.value, member.comment⟩ := by
    rw [encodeMember, read_present (ordered_memberFields _)]
    -- The comment is the only field that may be absent.
    obtain ⟨name, value, _ | comment⟩ := member
    all_goals
      simp [memberFields, putPresent, Record.putPair, memberRecord, readText, readOptionalText]
      rfl
  rw [readMember, taken]
  rfl

section Entry

/-- The shape of an entry that does not know where its name was written. -/
abbrev unplacedRecord : Record Unit Entry := entryRecord fun _ => default

variable (entry : Entry)

/-- A text that may be absent is entered into its field of an entry. -/
theorem putPresent_text {name : String} (put : Entry → Option String → Entry)
    (found : unplacedRecord.fields.find? (·.name = name) = some (textField name put))
    (absent : put entry none = entry) (text : Option String) :
    putPresent unplacedRecord entry (name, text.map (.text ())) =
      .ok (put entry text) := by
  cases text with
  -- A key that is not there leaves the field as it was, which is absent.
  | none => exact congrArg _ absent.symm
  | some text =>
    simp only [putPresent, Option.map_some, Record.putPair, found]
    rfl

/-- A truth value is entered into its field of an entry. -/
theorem putPresent_ignoreBlockWrapper (value : Bool) :
    putPresent unplacedRecord entry
        ("ignore_block_wrapper", some (.boolean () value)) =
      .ok { entry with ignoreBlockWrapper := value } := by
  simp [putPresent, Record.putPair, entryRecord, textField, readBoolean]

/-- Members are entered into their field of an entry. -/
theorem putPresent_members (members : List Member) :
    putPresent unplacedRecord entry
        ("members", some (.sequence () (members.map encodeMember))) =
      .ok { entry with members } := by
  have each : (members.map encodeMember).mapM (readMember .ignored) = .ok (members.map id) :=
    mapM_encode readMember_encodeMember members
  simp [putPresent, Record.putPair, entryRecord, textField, readEach, each]

/-- A name is entered into its field of an entry, without a place. -/
theorem putPresent_name (absent : entry.name = none) (name : Option (Located String)) :
    putPresent unplacedRecord entry
        ("name", (name.map (·.value)).map (.text ())) =
      .ok { entry with name := name.map fun name => { name with span := default } } := by
  cases name with
  | none =>
    cases entry
    cases absent
    rfl
  | some name => simp [putPresent, Record.putPair, entryRecord, textField, readLocated, readText]

/-- An entry is read as it was, except for the place of its name. -/
theorem readEntry_encodeEntry :
    readEntry (fun _ => default) (encodeEntry entry) = .ok entry.unplaced := by
  rw [readEntry, encodeEntry, read_present (ordered_entryFields _)]
  -- The fields are entered in the order of their keys.
  refine foldlM_putPresent (putPresent_text _ (fun entry block => { entry with block })
    (by simp [entryRecord, textField]) rfl _) ?_
  refine foldlM_putPresent (putPresent_text _ (fun entry comment => { entry with comment })
    (by simp [entryRecord, textField]) rfl _) ?_
  refine foldlM_putPresent (putPresent_text _ (fun entry content => { entry with content })
    (by simp [entryRecord, textField]) rfl _) ?_
  refine foldlM_putPresent (putPresent_text _ (fun entry decorator => { entry with decorator })
    (by simp [entryRecord, textField]) rfl _) ?_
  refine foldlM_putPresent (putPresent_text _ (fun entry generics => { entry with generics })
    (by simp [entryRecord, textField]) rfl _) ?_
  refine foldlM_putPresent (putPresent_ignoreBlockWrapper _ _) ?_
  refine foldlM_putPresent (putPresent_text _ (fun entry kind => { entry with kind })
    (by simp [entryRecord, textField]) rfl _) ?_
  refine foldlM_putPresent (putPresent_members _ _) ?_
  refine foldlM_putPresent (putPresent_text _ (fun entry method => { entry with method })
    (by simp [entryRecord, textField]) rfl _) ?_
  exact foldlM_putPresent (putPresent_name _ rfl _) rfl

end Entry

/-- A manifest is read as it was, except for the places of names, if data can describe it. -/
theorem readManifest_encodeManifest {manifest : Manifest}
    (describable : manifest.settings.Describable) :
    readManifest (fun _ => default) (.table () (encodeManifest manifest)) =
      .ok manifest.unplaced := by
  have settings := readSettings_encodeSettings describable
  have each := mapM_encode readEntry_encodeEntry manifest.entries
  rw [readManifest, encodeManifest, read_present (ordered_manifestFields _)]
  simp [manifestFields, putPresent, Record.putPair, manifestRecord, settings, readEach, each]
  rfl

section Written

open Toml (Writable)

variable {depth : Nat}

/-- A text can be written, whether it is there or not. -/
theorem writable_text (text : Option String) :
    ∀ value ∈ text.map (Tree.text ()), Writable depth value := by
  intro value there
  obtain ⟨characters, -, rfl⟩ := Option.map_eq_some_iff.mp there
  cases depth <;> trivial

/-- A table can be written if what is under its keys can be, and the keys come in order. -/
theorem writable_present {fields : List (String × Option (Tree Unit))}
    (ordered : Ordered fields)
    (each : ∀ field ∈ fields, ∀ value ∈ field.2, Writable depth value) :
    Writable (depth + 1) (.table () (present fields)) := by
  refine ⟨distinctKeys_present ordered, fun pair written => ?_⟩
  obtain ⟨field, member, made⟩ := List.mem_filterMap.mp written
  obtain ⟨value, there, rfl⟩ := Option.map_eq_some_iff.mp made
  exact each field member value there

/-- Settings that data can describe can be written. -/
theorem writable_encodeSettings {settings : Settings} (describable : settings.Describable) :
    Writable (depth + 1) (encodeSettings settings) := by
  have digit : ∀ value ∈ some (Tree.integer () (widthOf settings.indent)),
      Writable depth value := by
    rintro _ ⟨⟩
    -- All widths that name a unit have one digit.
    have small : 0 ≤ widthOf settings.indent ∧ widthOf settings.indent ≤ 9 := by
      have unit := describable.indent
      simp only [List.mem_cons, List.not_mem_nil, or_false] at unit
      rcases unit with unit | unit | unit | unit <;> rw [unit] <;> decide
    cases depth <;> exact small
  refine writable_present (ordered_settingsFields _) ?_
  simp only [settingsFields, List.forall_mem_cons, List.not_mem_nil, false_implies,
    implies_true, and_true]
  exact ⟨writable_text (some _), writable_text (some _), digit⟩

/-- A member can be written. -/
theorem writable_encodeMember (member : Member) : Writable (depth + 1) (encodeMember member) := by
  refine writable_present (ordered_memberFields _) ?_
  simp only [memberFields, List.forall_mem_cons, List.not_mem_nil, false_implies,
    implies_true, and_true]
  exact ⟨writable_text _, writable_text (some _), writable_text (some _)⟩

/-- An entry can be written. -/
theorem writable_encodeEntry (entry : Entry) : Writable (depth + 3) (encodeEntry entry) := by
  -- Members are tables in a row in a table, which makes three levels above their texts.
  have truth : ∀ value ∈ some (Tree.boolean () entry.ignoreBlockWrapper),
      Writable (depth + 2) value := by
    rintro _ ⟨⟩
    trivial
  have members : ∀ value ∈ some (Tree.sequence () (entry.members.map encodeMember)),
      Writable (depth + 2) value := by
    rintro _ ⟨⟩ item written
    obtain ⟨member, -, rfl⟩ := List.mem_map.mp written
    exact writable_encodeMember member
  refine writable_present (ordered_entryFields _) ?_
  simp only [entryFields, List.forall_mem_cons, List.not_mem_nil, false_implies,
    implies_true, and_true]
  exact ⟨writable_text _, writable_text _, writable_text _, writable_text _, writable_text _, truth,
    writable_text _, members, writable_text _, writable_text _⟩

/-- The root table of a manifest can be written if data can describe its settings. -/
theorem writable_encodeManifest {manifest : Manifest}
    (describable : manifest.settings.Describable) :
    Writable (depth + 5) (.table () (encodeManifest manifest)) := by
  have entries : ∀ value ∈ some (Tree.sequence () (manifest.entries.map encodeEntry)),
      Writable (depth + 4) value := by
    rintro _ ⟨⟩ item written
    obtain ⟨entry, -, rfl⟩ := List.mem_map.mp written
    exact writable_encodeEntry entry
  have settings : ∀ value ∈ some (encodeSettings manifest.settings),
      Writable (depth + 4) value := by
    rintro _ ⟨⟩
    exact writable_encodeSettings describable
  -- The fields stand in order, so the table can be written if its two parts can.
  refine writable_present (ordered_manifestFields _) ?_
  simp only [manifestFields, List.forall_mem_cons, List.not_mem_nil, false_implies,
    implies_true, and_true]
  exact ⟨settings, entries⟩

end Written

end DeclGen.Schema
