import DeclGen.Proofs.Schema.Labels
import DeclGen.Schema.Manifest

/-! Labels have no say in what is read as a manifest, but for the places of names. -/

namespace DeclGen

/-- An entry that does not know where its name was written. -/
def Entry.unplaced (entry : Entry) : Entry :=
  { entry with name := entry.name.map fun name => { name with span := default } }

/-- A manifest that does not know where its names were written. -/
def Manifest.unplaced (manifest : Manifest) : Manifest :=
  { manifest with entries := manifest.entries.map Entry.unplaced }

namespace Schema

variable {L M R S α β : Type} (f : L → M)

/-- A text is read alike. -/
theorem readText_map (value : Tree L) : readText (value.map f) = carry f id (readText value) := by
  cases value <;> rfl

/-- A text that may be missing is read alike under other labels. -/
theorem readOptionalText_map (value : Tree L) :
    readOptionalText (value.map f) = carry f id (readOptionalText value) := by
  cases value <;> rfl

/-- A truth value is read alike under other labels. -/
theorem readBoolean_map (value : Tree L) :
    readBoolean (value.map f) = carry f id (readBoolean value) := by
  cases value <;> rfl

/-- A width is read alike, at any label. -/
theorem readIndent_map (label : L) (value : Tree L) :
    readIndent (f label) (value.map f) = carry f id (readIndent label value) := by
  cases value with
  | integer place number =>
    -- Whether a number is a byte, and which unit it names, has nothing to do with labels.
    simp only [readIndent, Tree.map]
    split
    · cases indentOfWidth? number.toNat <;> rfl
    · rfl
  | null label => rfl
  | boolean label value => rfl
  | float label value => rfl
  | valueless label => rfl
  | text label value => rfl
  | moment label => rfl
  | sequence label items => rfl
  | table label fields => rfl

/-- Values in a row are read alike if each of them is. -/
theorem readEach_map {read : Tree L → Except (Fault L) α} {read' : Tree M → Except (Fault M) β}
    {h : α → β} (each : ∀ value, read' (value.map f) = carry f h (read value)) (value : Tree L) :
    readEach read' (value.map f) = carry f (List.map h) (readEach read value) := by
  -- A row is read item by item; everything else is a mismatch, which carries its label.
  cases value with
  | sequence label items =>
    rw [Tree.map, Tree.mapItems_eq_map]
    exact mapM_carry each items
  | null label => rfl
  | boolean label value => rfl
  | integer label value => rfl
  | float label value => rfl
  | valueless label => rfl
  | text label value => rfl
  | moment label => rfl
  | table label fields => rfl

/-- A field carries what its reader does, if it is entered into the view of the record. -/
theorem carries_of_read {f : L → M} {g : R → S} {h : α → β} {name : String}
    {read : L → Tree L → Except (Fault L) α} {read' : M → Tree M → Except (Fault M) β}
    {enter : R → α → R} {enter' : S → β → S}
    (same : ∀ label value, read' (f label) (value.map f) = carry f h (read label value))
    (agree : ∀ record result, enter' (g record) (h result) = g (enter record result)) :
    Field.Carries f g ⟨name, fun label value record => do return enter record (← read label value)⟩
      ⟨name, fun label value record => do return enter' record (← read' label value)⟩ where
  name := rfl
  put label value record := by
    simp only [same]
    cases read label value with
    | error fault => rfl
    | ok result => exact congrArg Except.ok (agree record result)

/-- The settings are read alike. -/
theorem settingsRecord_carries : settingsRecord.Carries f id settingsRecord where
  expected := rfl
  strict := rfl
  fields :=
    .cons (carries_of_read (fun _ => readText_map f) fun _ _ => rfl)
      (.cons (carries_of_read (fun _ => readText_map f) fun _ _ => rfl)
        (.cons (carries_of_read (readIndent_map f) fun _ _ => rfl) .nil))

/-- Items that are too many are too many under any labels. -/
theorem checkSurplus_map (shape : Record L R) (other : Record M S)
    (fields : shape.fields.length = other.fields.length) (surplus : Surplus) (value : Tree L) :
    other.checkSurplus surplus (value.map f) = carry f id (shape.checkSurplus surplus value) := by
  -- Only the length of a row is looked at, which relabelling keeps.
  cases value with
  | sequence label items =>
    simp only [Record.checkSurplus, Tree.map, Tree.mapItems_eq_map, List.length_map, fields]
    split <;> rfl
  | null label => rfl
  | boolean label value => rfl
  | integer label value => rfl
  | float label value => rfl
  | valueless label => rfl
  | text label value => rfl
  | moment label => rfl
  | table label fields => rfl

/-- The settings are read alike, whatever is done with surplus items. -/
theorem readSettings_map (surplus : Surplus) (value : Tree L) :
    readSettings surplus (value.map f) = carry f id (readSettings surplus value) := by
  have read := (settingsRecord_carries f).read {} value
  have length := checkSurplus_map f settingsRecord settingsRecord rfl surplus value
  -- Both parts of reading are carried, one after the other.
  rw [id] at read
  rw [readSettings, readSettings, read, length]
  cases settingsRecord.read {} value with
  | error fault => rfl
  | ok settings => cases settingsRecord.checkSurplus surplus value <;> rfl

/-- The fields of a member are read alike under other labels. -/
theorem memberRecord_carries : memberRecord.Carries f id memberRecord where
  expected := rfl
  strict := rfl
  fields :=
    .cons (carries_of_read (fun _ => readText_map f) fun _ _ => rfl)
      (.cons (carries_of_read (fun _ => readText_map f) fun _ _ => rfl)
        (.cons (carries_of_read (fun _ => readOptionalText_map f) fun _ _ => rfl) .nil))

/-- A field that is not there is not there under any labels. -/
theorem lacking_map (name : String) (value : Tree L) :
    lacking name (value.map f) = (lacking name value).map f := by
  cases value <;> simp [lacking, Tree.map, Tree.mapItems_eq_map, Fault.map, Tree.label]

/-- A draft of a member is complete under any labels, or under none. -/
theorem complete_map (draft : MemberDraft) (value : Tree L) :
    draft.complete (value.map f) = carry f id (draft.complete value) := by
  -- Two fields have to be there, and the first that is not is told about.
  rcases draft with ⟨_ | name, _ | text, comment⟩ <;>
    simp [MemberDraft.complete, carry, lacking_map]

/-- A member is read alike. -/
theorem readMember_map (surplus : Surplus) (value : Tree L) :
    readMember surplus (value.map f) = carry f id (readMember surplus value) := by
  have read := (memberRecord_carries f).read {} value
  have length := checkSurplus_map f memberRecord memberRecord rfl surplus value
  rw [id] at read
  rw [readMember, readMember, read, length]
  cases memberRecord.read {} value with
  | error fault => rfl
  | ok draft =>
    -- The draft is the same, so it is complete under both labels or under none.
    have complete := complete_map f draft value
    simp only [carry, id, Bind.bind, Except.bind] at complete ⊢
    rw [complete]
    cases draft.complete value with
    | error fault => rfl
    | ok member => cases memberRecord.checkSurplus surplus value <;> rfl

/-- A text field of an entry is read alike. -/
theorem textField_carries (name : String) {put : Entry → Option String → Entry}
    (agree : ∀ entry text, put entry.unplaced text = (put entry text).unplaced) :
    Field.Carries f Entry.unplaced (textField name put) (textField name put) :=
  carries_of_read (fun _ => readOptionalText_map f) agree

/-- The name of an entry is read alike, except for its place. -/
theorem readLocated_map (locate : L → Span) (value : Tree L) :
    readLocated (fun _ => default) (value.map f) =
      carry f (fun name => { name with span := default }) (readLocated locate value) := by
  rw [readLocated, readLocated, readText_map]
  cases readText value <;> rfl

/-- The fields of an entry are read alike, except for the place of its name. -/
theorem entryRecord_carries (locate : L → Span) :
    (entryRecord locate).Carries f Entry.unplaced (entryRecord fun _ => default) where
  expected := rfl
  strict := rfl
  fields :=
    -- The name is the only field in which places stand.
    .cons (textField_carries f _ fun _ _ => rfl)
      (.cons (carries_of_read (fun _ => readLocated_map f locate) fun _ _ => rfl)
        (.cons (textField_carries f _ fun _ _ => rfl)
          (.cons (textField_carries f _ fun _ _ => rfl)
            (.cons (textField_carries f _ fun _ _ => rfl)
              (.cons (textField_carries f _ fun _ _ => rfl)
                (.cons (textField_carries f _ fun _ _ => rfl)
                  (.cons (carries_of_read (fun _ => readBoolean_map f) fun _ _ => rfl)
                    (.cons (textField_carries f _ fun _ _ => rfl)
                      (.cons (carries_of_read
                          (fun _ => readEach_map f (readMember_map f .ignored))
                          fun entry members => by simp [Entry.unplaced])
                        .nil)))))))))

/-- An entry is read alike under other labels, but for the place of its name. -/
theorem readEntry_map (locate : L → Span) (value : Tree L) :
    readEntry (fun _ => default) (value.map f) =
      carry f Entry.unplaced (readEntry locate value) :=
  (entryRecord_carries f locate).read {} value

/-- The fields of a manifest are read alike under other labels, but for the places of names. -/
theorem manifestRecord_carries (locate : L → Span) :
    (manifestRecord locate).Carries f Manifest.unplaced (manifestRecord fun _ => default) where
  expected := rfl
  strict := rfl
  fields :=
    .cons (carries_of_read (fun _ => readSettings_map f .ignored) fun _ _ => rfl)
      (.cons (carries_of_read (fun _ => readEach_map f (readEntry_map f locate)) fun _ _ => rfl)
        .nil)

/-- A manifest is read alike under any labels, except for the places of names. -/
theorem readManifest_map (locate : L → Span) (value : Tree L) :
    readManifest (fun _ => default) (value.map f) =
      carry f Manifest.unplaced (readManifest locate value) :=
  (manifestRecord_carries f locate).read {} value

end Schema

end DeclGen
