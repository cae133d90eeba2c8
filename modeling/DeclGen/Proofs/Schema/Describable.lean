import DeclGen.Proofs.Schema.Keys
import DeclGen.Proofs.Schema.Refusal
import DeclGen.Schema.Manifest

/-! What data can describe: settings that are read always have a unit of some width. -/

namespace DeclGen

/-- Settings that data can describe: their unit has a width, and they change no block. -/
structure Settings.Describable (settings : Settings) : Prop where
  /-- The unit is the tab or one of the widths that are written as they stand. -/
  indent : settings.indent ∈ [.tab, .spaces 2, .spaces 4, .spaces 8]
  /-- A transformer has no place in data. -/
  transformer : settings.transformer = .identity

/-- The settings of a manifest that gives none can be described. -/
theorem Settings.describable_default : ({} : Settings).Describable where
  indent := by decide
  transformer := rfl

namespace Schema

variable {L R : Type}

/-- What every step keeps, a run of steps keeps. -/
theorem foldlM_keeps {ι : Type} {Kept : R → Prop} {step : R → ι → Except (Fault L) R}
    {items : List ι}
    (each : ∀ item ∈ items, ∀ record next, step record item = .ok next → Kept record → Kept next)
    {start last : R} (run : items.foldlM step start = .ok last) (first : Kept start) :
    Kept last := by
  -- The step in hand keeps it, and the rest of the run starts from there.
  induction items generalizing start with
  | nil =>
    cases run
    exact first
  | cons item items ih =>
    rw [List.foldlM_cons] at run
    cases taken : step start item with
    | error fault => simp [taken, Bind.bind, Except.bind] at run
    | ok next =>
      simp only [taken, Bind.bind, Except.bind] at run
      exact ih (fun other member => each other (by simp [member])) run
        (each item (by simp) start next taken first)

/-- What a value may have for the field of a name; any item of a row may be the one. -/
def Offers (name : String) (part : Tree L) : Tree L → Prop
  | .table _ pairs => ∃ pair ∈ pairs, pair.1.name = name ∧ pair.2 = part
  | .moment label => name = momentKey ∧ part = .text label ""
  | .sequence _ items => part ∈ items
  | _ => False

/-- What every field of a record keeps, the record keeps, however it is written. -/
theorem Record.read_keeps {shape : Record L R} {Kept : R → Prop} {value : Tree L}
    (each : ∀ field ∈ shape.fields, ∀ label part record next, Offers field.name part value →
      field.put label part record = .ok next → Kept record → Kept next)
    {start last : R} (run : shape.read start value = .ok last) (first : Kept start) :
    Kept last := by
  -- A table and a date enter pairs, which lead to a field or change nothing.
  have pair : ∀ pair : Key L × Tree L, Offers pair.1.name pair.2 value →
      ∀ record next, shape.putPair record pair = .ok next → Kept record → Kept next := by
    intro pair offered record next put kept
    unfold putPair at put
    cases found : shape.fields.find? (·.name = pair.1.name) with
    | some field =>
      simp only [found] at put
      have named : field.name = pair.1.name := by simpa using List.find?_some found
      exact each field (List.mem_of_find?_eq_some found) _ _ record next (named ▸ offered) put kept
    | none =>
      -- A key that is no field is skipped or refused.
      simp only [found] at put
      by_cases strict : shape.strict = true
      · simp [strict] at put
      · by_cases valued : pair.2.skippable = true
        · simp only [strict, valued, Bool.false_eq_true, if_false, if_true, Except.ok.injEq] at put
          exact put ▸ kept
        · simp [strict, valued] at put
  cases value with
  | table label pairs =>
    refine foldlM_keeps (fun item member => pair item ?_) run first
    exact ⟨item, (mem_sortedByKey pairs item).mp member, rfl, rfl⟩
  | moment label => exact pair _ ⟨rfl, rfl⟩ start last run first
  | sequence label items =>
    -- The items of a row are entered into fields of the record, too.
    refine foldlM_keeps (fun item member record next put kept => ?_) run first
    have both := List.of_mem_zip member
    exact each item.1 both.1 _ _ record next both.2 put kept
  | null label => simp [read, mismatch] at run
  | boolean label value => simp [read, mismatch] at run
  | integer label value => simp [read, mismatch] at run
  | float label value => simp [read, mismatch] at run
  | valueless label => simp [read, mismatch] at run
  | text label value => simp [read, mismatch] at run

/-- A width that names a unit names one of the four. -/
theorem mem_of_indentOfWidth? {width : Nat} {unit : Indent}
    (named : indentOfWidth? width = some unit) :
    unit ∈ [.tab, .spaces 2, .spaces 4, .spaces 8] := by
  unfold indentOfWidth? at named
  -- Zero stands for the tab, and three other widths for as many spaces.
  by_cases zero : width = 0
  · simp only [zero, if_true, Option.some.injEq] at named
    simp [← named]
  · by_cases other : width = 2 ∨ width = 4 ∨ width = 8
    · simp only [if_neg zero, if_pos other, Option.some.injEq] at named
      subst named
      rcases other with rfl | rfl | rfl <;> decide
    · simp [zero, other] at named

/-- A unit that is read is one of the four. -/
theorem mem_of_readIndent {label : L} {value : Tree L} {unit : Indent}
    (taken : readIndent label value = .ok unit) :
    unit ∈ [.tab, .spaces 2, .spaces 4, .spaces 8] := by
  cases value with
  | integer place number =>
    simp only [readIndent] at taken
    -- Only a byte is looked up, and only a width that names a unit gives one.
    by_cases byte : 0 ≤ number ∧ number ≤ 255
    · rw [if_pos byte] at taken
      cases named : indentOfWidth? number.toNat with
      | none => simp [named] at taken
      | some other =>
        simp only [named, Except.ok.injEq] at taken
        exact taken ▸ mem_of_indentOfWidth? named
    · simp [byte] at taken
  | null label => simp [readIndent, mismatch] at taken
  | boolean label value => simp [readIndent, mismatch] at taken
  | float label value => simp [readIndent, mismatch] at taken
  | valueless label => simp [readIndent, mismatch] at taken
  | text label value => simp [readIndent, mismatch] at taken
  | moment label => simp [readIndent, mismatch] at taken
  | sequence label items => simp [readIndent, mismatch] at taken
  | table label fields => simp [readIndent, mismatch] at taken

/-- Settings that are read can be described. -/
theorem describable_of_readSettings {surplus : Surplus} {value : Tree L} {settings : Settings}
    (taken : readSettings surplus value = .ok settings) : settings.Describable := by
  unfold readSettings at taken
  cases read : settingsRecord.read {} value with
  | error fault => simp [read, Bind.bind, Except.bind] at taken
  | ok other =>
    -- What is done with surplus items may refuse the settings, but never changes them.
    have same : other = settings := by
      cases counted : settingsRecord.checkSurplus surplus value <;>
        simp [read, counted, Bind.bind, Except.bind, Pure.pure, Except.pure] at taken
      exact taken
    subst other
    -- Only one of the three fields touches the unit, and none the transformer.
    refine Record.read_keeps (fun field known label part record next _ put kept => ?_) read
      Settings.describable_default
    simp only [settingsRecord, List.mem_cons, List.not_mem_nil, or_false] at known
    rcases known with rfl | rfl | rfl
    · obtain ⟨text, -, rfl⟩ := eq_ok_of_bind_pure put
      exact ⟨kept.indent, kept.transformer⟩
    · obtain ⟨text, -, rfl⟩ := eq_ok_of_bind_pure put
      exact ⟨kept.indent, kept.transformer⟩
    · obtain ⟨unit, given, rfl⟩ := eq_ok_of_bind_pure put
      exact ⟨mem_of_readIndent given, kept.transformer⟩

/-- The settings of a manifest that is read can be described. -/
theorem describable_of_readManifest {locate : L → Span} {value : Tree L} {manifest : Manifest}
    (taken : readManifest locate value = .ok manifest) : manifest.settings.Describable := by
  -- One field sets the settings to describable ones, and the other leaves them alone.
  have keeps : ∀ field ∈ (manifestRecord locate).fields, ∀ label part record next,
      Offers field.name part value → field.put label part record = .ok next →
        record.settings.Describable → next.settings.Describable := by
    intro field known label part record next _ put kept
    simp only [manifestRecord, List.mem_cons, List.not_mem_nil, or_false] at known
    rcases known with rfl | rfl
    · obtain ⟨settings, given, rfl⟩ := eq_ok_of_bind_pure put
      exact describable_of_readSettings given
    · obtain ⟨entries, -, rfl⟩ := eq_ok_of_bind_pure put
      exact kept
  exact Record.read_keeps keeps taken Settings.describable_default

end Schema

end DeclGen
