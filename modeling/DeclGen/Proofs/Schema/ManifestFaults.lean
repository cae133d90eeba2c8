import DeclGen.Proofs.Schema.FirstFault
import DeclGen.Schema.Manifest

/-! Settings, members, entries and manifests are refused with the first fault of their layouts. -/

namespace DeclGen.Schema

variable {L R : Type}

/-- A text is refused with its one fault. -/
theorem refuses_readText : Refuses (readText (L := L)) textFaults := by
  intro value _
  cases value <;> rfl

/-- A text that may be missing is refused with the first of its faults. -/
theorem refuses_readOptionalText : Refuses (readOptionalText (L := L)) optionalTextFaults := by
  intro value _
  cases value <;> rfl

/-- A truth value is refused with the first of its faults. -/
theorem refuses_readBoolean : Refuses (readBoolean (L := L)) booleanFaults := by
  intro value _
  cases value <;> rfl

/-- The widths of units are four of the bytes. -/
theorem indentOfWidth?_eq_none_iff (width : Nat) :
    indentOfWidth? width = none ↔ (width : Int) ∉ [0, 2, 4, 8] := by
  unfold indentOfWidth?
  by_cases zero : width = 0
  · simp [zero]
  · rw [if_neg zero]
    -- Without zero there are three widths left, each of which has a unit.
    by_cases other : width = 2 ∨ width = 4 ∨ width = 8
    · rcases other with rfl | rfl | rfl <;> simp
    · simp only [if_neg other, List.mem_cons, List.not_mem_nil, or_false, true_iff]
      omega

/-- A width is refused with its one fault. -/
theorem refuses_readIndent (label : L) : Refuses (readIndent label) (widthFaults label) := by
  intro value _
  cases value with
  | integer place number =>
    simp only [readIndent, widthFaults]
    -- A number that is no byte is told about at its own place, any other width at the label.
    by_cases byte : 0 ≤ number ∧ number ≤ 255
    · have inside : ¬ (number < 0 ∨ 255 < number) := by omega
      -- The widths are listed as integers and looked up as natural numbers.
      have named := indentOfWidth?_eq_none_iff number.toNat
      rw [Int.toNat_of_nonneg byte.1] at named
      rw [if_pos byte, if_neg inside]
      cases unit : indentOfWidth? number.toNat with
      | none => simp [named.mp unit]
      | some unit' =>
        have known : number ∈ [0, 2, 4, 8] := by
          by_cases known : number ∈ [0, 2, 4, 8]
          · exact known
          · simp [named.mpr known] at unit
        simp [known]
    · have outside : number < 0 ∨ 255 < number := by omega
      rw [if_neg byte, if_pos outside]
      rfl
  | null label => rfl
  | boolean label value => rfl
  | float label value => rfl
  | valueless label => rfl
  | text label value => rfl
  | moment label => rfl
  | sequence label items => rfl
  | table label fields => rfl

/-- Values in a row are refused with the first fault of all. -/
theorem refuses_readEach {α : Type} {read : Tree L → Except (Fault L) α}
    {faults : Tree L → List (Fault L)} (each : Refuses read faults) :
    Refuses (readEach read) (eachFaults faults) := by
  intro value valued
  -- A row fails where its first faulty item does; everything else has the wrong type.
  cases value with
  | sequence label items =>
    exact refusal_mapM fun item member =>
      each item (Tree.skippable_of_mem_items valued member)
  | null label => rfl
  | boolean label value => rfl
  | integer label value => rfl
  | float label value => rfl
  | valueless label => rfl
  | text label value => rfl
  | moment label => rfl
  | table label fields => rfl

/-- A field that enters what a reader gives refuses what the reader refuses. -/
theorem describes_of_refuses {α : Type} {name : String} {read : L → Tree L → Except (Fault L) α}
    {faults : L → Tree L → List (Fault L)} (refuses : ∀ label, Refuses (read label) (faults label))
    (enter : R → α → R) :
    FieldRule.Describes ⟨name, faults⟩
      ⟨name, fun label value record => do return enter record (← read label value)⟩ where
  name := rfl
  faults label record value valued := by
    rw [refusal_bind_pure]
    exact refuses label value valued

/-- The layout of the settings lists their fields. -/
theorem settingsLayout_describes : (settingsLayout (L := L)).Describes settingsRecord where
  expected := rfl
  strict := rfl
  fields :=
    .cons (describes_of_refuses (fun _ => refuses_readText) _)
      (.cons (describes_of_refuses (fun _ => refuses_readText) _)
        (.cons (describes_of_refuses refuses_readIndent _) .nil))

/-- Surplus items that are ignored are never refused. -/
theorem checkSurplus_ignored (shape : Record L R) (value : Tree L) :
    shape.checkSurplus .ignored value = .ok () := by
  cases value <;> rfl

/-- Settings are what their record is read as. -/
theorem readSettings_ignored (value : Tree L) :
    readSettings .ignored value = settingsRecord.read {} value := by
  simp only [readSettings, checkSurplus_ignored]
  cases settingsRecord.read {} value <;> rfl

/-- A member is a draft that is complete. -/
theorem readMember_ignored (value : Tree L) :
    readMember .ignored value =
      (memberRecord.read {} value >>= fun draft => draft.complete value) := by
  simp only [readMember, checkSurplus_ignored]
  cases memberRecord.read {} value with
  | error fault => rfl
  | ok draft => exact bind_pure (draft.complete value)

/-- Settings are refused with the first fault of their layout. -/
theorem refuses_readSettings : Refuses (readSettings (L := L) .ignored) settingsLayout.faults := by
  intro value valued
  rw [readSettings_ignored]
  exact settingsLayout_describes.refusal_read {} value valued

/-- The layout of a member has the fields that are read, each with its faults. -/
theorem memberLayout_describes : (memberLayout (L := L)).Describes memberRecord where
  expected := rfl
  strict := rfl
  fields :=
    .cons (describes_of_refuses (fun _ => refuses_readText) _)
      (.cons (describes_of_refuses (fun _ => refuses_readText) _)
        (.cons (describes_of_refuses (fun _ => refuses_readOptionalText) _) .nil))

/-- A draft lacks its name or its value if it lacked them before and none of some keys is theirs. -/
def StillLacks (keys : List String) (draft next : MemberDraft) : Prop :=
  (next.name = none ↔ draft.name = none ∧ "name" ∉ keys) ∧
    (next.value = none ↔ draft.value = none ∧ "value" ∉ keys)

/-- A field of a member gives a draft what its key says. -/
theorem stillLacks_of_put {field : Field L MemberDraft} (known : field ∈ memberRecord.fields)
    {label : L} {value : Tree L} {draft next : MemberDraft}
    (put : field.put label value draft = .ok next) : StillLacks [field.name] draft next := by
  simp only [memberRecord, List.mem_cons, List.not_mem_nil, or_false] at known
  -- Every field of a member fills a part of the draft, which is its own.
  rcases known with rfl | rfl | rfl
  all_goals
    obtain ⟨text, -, rfl⟩ := eq_ok_of_bind_pure put
    simp [StillLacks]

/-- A pair of a table gives a draft what its key says. -/
theorem stillLacks_of_putPair {pair : Key L × Tree L} {draft next : MemberDraft}
    (put : memberRecord.putPair draft pair = .ok next) :
    StillLacks [pair.1.name] draft next := by
  unfold Record.putPair at put
  cases found : (memberRecord (L := L)).fields.find? (·.name = pair.1.name) with
  | some field =>
    simp only [found] at put
    have same : field.name = pair.1.name := by simpa using List.find?_some found
    exact same ▸ stillLacks_of_put (List.mem_of_find?_eq_some found) put
  | none =>
    -- A key that no field has is skipped.
    have other : pair.1.name ≠ "name" ∧ pair.1.name ≠ "value" := by
      simp only [memberRecord, List.find?_eq_none, List.mem_cons, List.not_mem_nil, or_false,
        forall_eq_or_imp, forall_eq, decide_eq_true_eq] at found
      exact ⟨Ne.symm found.1, Ne.symm found.2.1⟩
    simp only [found] at put
    by_cases valued : pair.2.skippable = true
    · simp only [memberRecord, Bool.false_eq_true, if_false, valued, if_true,
        Except.ok.injEq] at put
      subst next
      simp [StillLacks, Ne.symm other.1, Ne.symm other.2]
    · simp [memberRecord, valued] at put

/-- A run of steps gives a draft what their keys say. -/
theorem stillLacks_of_foldlM {ι : Type} {step : MemberDraft → ι → Except (Fault L) MemberDraft}
    (key : ι → String) {items : List ι}
    (each : ∀ item ∈ items, ∀ draft next, step draft item = .ok next →
      StillLacks [key item] draft next)
    {draft next : MemberDraft} (put : items.foldlM step draft = .ok next) :
    StillLacks (items.map key) draft next := by
  induction items generalizing draft with
  | nil =>
    simp only [List.foldlM_nil, Pure.pure, Except.pure, Except.ok.injEq] at put
    simp [StillLacks, put]
  | cons item items ih =>
    rw [List.foldlM_cons] at put
    cases first : step draft item with
    | error fault => simp [first, Bind.bind, Except.bind] at put
    | ok middle =>
      simp only [first, Bind.bind, Except.bind] at put
      -- What is lacking after both is what neither of them gives.
      have here := each item (by simp) draft middle first
      have later := ih (fun other member => each other (by simp [member])) put
      simp only [StillLacks, List.map_cons, List.mem_cons, List.not_mem_nil, or_false, not_or]
        at here later ⊢
      simp only [later.1, later.2, here.1, here.2, and_assoc, and_self]

/-- A draft that was read is refused for the required fields that were not there. -/
theorem refusal_complete {value : Tree L} {draft : MemberDraft}
    (taken : memberRecord.read {} value = .ok draft) :
    refusal (draft.complete value) = (memberLayout.lackFaults value).head? := by
  cases value with
  | table label pairs =>
    obtain ⟨noName, noValue⟩ := stillLacks_of_foldlM (fun pair => pair.1.name)
      (fun pair _ draft next put => stillLacks_of_putPair put) taken
    -- A field is lacking where no pair has its key, in whatever order they come.
    have allName : pairs.all (·.1.name ≠ "name") = draft.name.isNone := by
      rw [Bool.eq_iff_iff]
      simp [noName, mem_sortedByKey]
    have allValue : pairs.all (·.1.name ≠ "value") = draft.value.isNone := by
      rw [Bool.eq_iff_iff]
      simp [noValue, mem_sortedByKey]
    simp only [Layout.lackFaults, Layout.missingFaults, memberLayout, List.filter_cons, allName,
      allValue, List.filter_nil, MemberDraft.complete]
    cases draft.name <;> cases draft.value <;> rfl
  | moment label =>
    have put : memberRecord.putPair {} (⟨momentKey, label⟩, .text label "") = .ok draft := taken
    cases put
    rfl
  | sequence label items =>
    obtain ⟨noName, noValue⟩ := stillLacks_of_foldlM (fun item => item.1.name)
      (fun item member draft next put => stillLacks_of_put (List.of_mem_zip member).1 put) taken
    -- The first two fields are those that have to be there.
    simp only [memberRecord] at noName noValue
    rcases items with _ | ⟨one, _ | ⟨two, rest⟩⟩
    · have named : draft.name = none := noName.mpr (by simp)
      simp [MemberDraft.complete, named, Layout.lackFaults, memberLayout, lacking]
    · have named : draft.name ≠ none := noName.not.mpr (by simp)
      have unvalued : draft.value = none := noValue.mpr (by simp)
      obtain ⟨name, named⟩ := Option.ne_none_iff_exists'.mp named
      simp [MemberDraft.complete, named, unvalued, Layout.lackFaults, memberLayout, lacking]
    · have named : draft.name ≠ none := noName.not.mpr (by simp)
      have valued : draft.value ≠ none := noValue.not.mpr (by simp)
      obtain ⟨name, named⟩ := Option.ne_none_iff_exists'.mp named
      obtain ⟨text, valued⟩ := Option.ne_none_iff_exists'.mp valued
      have long : ¬ rest.length + 1 + 1 < 2 := by omega
      simp [MemberDraft.complete, named, valued, Layout.lackFaults, memberLayout, long]
  | null label => simp [Record.read, mismatch] at taken
  | boolean label value => simp [Record.read, mismatch] at taken
  | integer label value => simp [Record.read, mismatch] at taken
  | float label value => simp [Record.read, mismatch] at taken
  | valueless label => simp [Record.read, mismatch] at taken
  | text label value => simp [Record.read, mismatch] at taken

/-- Members are refused with the first fault of their layout. -/
theorem refuses_readMember : Refuses (readMember (L := L) .ignored) memberLayout.faults := by
  intro value valued
  -- Faults of the fields come first, then what is not there.
  have read := memberLayout_describes.refusal_read {} value valued
  rw [Layout.faults_eq_append, List.head?_append, ← read, readMember_ignored]
  cases taken : memberRecord.read {} value with
  | error fault => rfl
  | ok draft =>
    -- What is there has no fault, so what is not there comes first.
    rw [← refusal_complete taken, refusal_ok, Option.none_or]
    rfl

/-- A text that may be absent is refused in its field as it is elsewhere. -/
theorem textField_describes (name : String) (put : Entry → Option String → Entry) :
    FieldRule.Describes (L := L) ⟨name, fun _ => optionalTextFaults⟩ (textField name put) :=
  describes_of_refuses (fun _ => refuses_readOptionalText) put

/-- The bytes of a name are no reason to refuse it. -/
theorem refuses_readLocated (locate : L → Span) : Refuses (readLocated locate) textFaults := by
  intro value valued
  rw [readLocated, refusal_bind_pure]
  exact refuses_readText value valued

/-- The layout of an entry has the fields that are read, each with its faults. -/
theorem entryLayout_describes (locate : L → Span) :
    (entryLayout (L := L)).Describes (entryRecord locate) where
  expected := rfl
  strict := rfl
  fields :=
    .cons (textField_describes _ _)
      (.cons (describes_of_refuses (fun _ => refuses_readLocated locate)
          fun (entry : Entry) name => { entry with name := some name })
        (.cons (textField_describes _ _) (.cons (textField_describes _ _)
          (.cons (textField_describes _ _) (.cons (textField_describes _ _)
            (.cons (textField_describes _ _)
              (.cons (describes_of_refuses (fun _ => refuses_readBoolean) _)
                (.cons (textField_describes _ _)
                  (.cons (describes_of_refuses (fun _ => refuses_readEach refuses_readMember) _)
                    .nil)))))))))

/-- An entry is refused with the first fault of its layout. -/
theorem refuses_readEntry (locate : L → Span) : Refuses (readEntry locate) entryLayout.faults :=
  (entryLayout_describes locate).refusal_read {}

/-- The layout of a manifest has the fields that are read, each with its faults. -/
theorem manifestLayout_describes (locate : L → Span) :
    (manifestLayout (L := L)).Describes (manifestRecord locate) where
  expected := rfl
  strict := rfl
  fields :=
    .cons (describes_of_refuses (fun _ => refuses_readSettings) _)
      (.cons (describes_of_refuses (fun _ => refuses_readEach (refuses_readEntry locate)) _) .nil)

/-- Manifests are refused with the first fault of their layout. -/
theorem refuses_readManifest (locate : L → Span) :
    Refuses (readManifest locate) manifestLayout.faults :=
  (manifestLayout_describes locate).refusal_read {}

end DeclGen.Schema
