import DeclGen.Proofs.Schema.KeyOrder
import DeclGen.Proofs.Schema.Refusal
import DeclGen.Toml.Document
import DeclGen.Toml.Soundness

/-!
Data on its own and data in a manifest: both are read as the same, or refused with the same message.

Data on its own comes with a notation of its own for fractions, and with no surplus in a row.
-/

namespace DeclGen

namespace Tree

variable {L : Type}

/-- Whether a value is made of texts, truth values, words of 64 bits, rows and tables. -/
def isShared (value : Tree L) : Bool :=
  value.all fun
    | .null _ | .float _ _ | .valueless _ | .moment _ => false
    | .integer _ number => Toml.fitsWord number
    | .boolean _ _ | .text _ _ | .sequence _ _ | .table _ _ => true

/-- How many items a row has; what is no row has none. -/
def itemCount : Tree L → Nat
  | .sequence _ items => items.length
  | _ => 0

/-- The items of a row are values of the same sort. -/
theorem isShared_of_mem_items {label : L} {items : List (Tree L)}
    (whole : (Tree.sequence label items).isShared = true) {item : Tree L} (member : item ∈ items) :
    item.isShared = true := by
  simp only [isShared, all, Bool.true_and] at whole
  exact allItems_iff.mp whole item member

/-- The fields of a table hold values of the same sort. -/
theorem isShared_of_mem_fields {label : L} {fields : List (Key L × Tree L)}
    (whole : (Tree.table label fields).isShared = true) {field : Key L × Tree L}
    (member : field ∈ fields) : field.2.isShared = true := by
  simp only [isShared, all, Bool.true_and] at whole
  exact allFields_iff.mp whole field member

end Tree

namespace Schema

variable {L M R α β : Type}

/-- A problem that is told in the same way in every notation. -/
def Problem.IsPlain (problem : Problem) : Prop :=
  ∀ style other, problem.message style = problem.message other

/-- A reader whose faults are all plain, where no value has a notation. -/
def PlainFaults (read : Tree L → Except (Fault L) α) : Prop :=
  ∀ value, value.isShared = true → ∀ fault, read value = .error fault → fault.problem.IsPlain

/-- A value of another type is told in the same way in every notation. -/
theorem plainFaults_mismatch (expected : Expected) :
    PlainFaults (mismatch expected : Tree L → Except (Fault L) α) := by
  rintro value shared fault ⟨⟩ style other
  -- A value of the wrong type is told in words that do not depend on the format, but for a decimal.
  cases value with
  | float label number => simp [Tree.isShared, Tree.all] at shared
  | null label => rfl
  | boolean label value => rfl
  | integer label value => rfl
  | valueless label => rfl
  | text label value => rfl
  | moment label => rfl
  | sequence label items => rfl
  | table label fields => rfl

/-- A field whose faults are all plain. -/
def Field.PlainFaults (field : Field L R) : Prop :=
  ∀ label record, Schema.PlainFaults (field.put label · record)

/-- A record whose fields have plain faults has plain faults. -/
theorem plainFaults_read {shape : Record L R} (plain : ∀ field ∈ shape.fields, field.PlainFaults)
    (start : R) : PlainFaults (shape.read start) := by
  intro value shared fault refused
  cases value with
  | table label pairs =>
    -- The fault is that of one pair, whatever was entered into the record before.
    obtain ⟨pair, member, record, here⟩ := exists_of_foldlM_error refused
    have inside := Tree.isShared_of_mem_fields shared ((mem_sortedByKey pairs pair).mp member)
    unfold Record.putPair at here
    split at here
    next field found =>
      exact plain field (List.mem_of_find?_eq_some found) _ _ _ inside fault here
    next =>
      -- A key that is no field is told by its name, which has no notation.
      split at here
      · cases here
        exact fun style other => rfl
      · split at here
        · cases here
        · cases here
          exact fun style other => rfl
  | sequence label items =>
    obtain ⟨⟨field, item⟩, member, record, here⟩ := exists_of_foldlM_error refused
    obtain ⟨isField, isItem⟩ := List.of_mem_zip member
    have inside := Tree.isShared_of_mem_items shared isItem
    exact plain field isField label record item inside fault here
  | moment label => simp [Tree.isShared, Tree.all] at shared
  | null label => exact plainFaults_mismatch _ _ shared fault refused
  | boolean label value => exact plainFaults_mismatch _ _ shared fault refused
  | integer label value => exact plainFaults_mismatch _ _ shared fault refused
  | float label value => exact plainFaults_mismatch _ _ shared fault refused
  | valueless label => exact plainFaults_mismatch _ _ shared fault refused
  | text label value => exact plainFaults_mismatch _ _ shared fault refused

/-- A field has plain faults if its reader has. -/
theorem plainFaults_of_read {name : String} {read : L → Tree L → Except (Fault L) α}
    {enter : R → α → R} (plain : ∀ label, PlainFaults (read label)) :
    Field.PlainFaults
      ⟨name, fun label value record => do return enter record (← read label value)⟩ := by
  intro label record value shared fault refused
  rcases error_of_bind refused with here | ⟨result, -, done⟩
  · exact plain label value shared fault here
  · cases done

/-- A text is refused with a plain fault. -/
theorem plainFaults_readText : PlainFaults (readText (L := L)) := by
  intro value shared fault refused
  unfold readText at refused
  split at refused
  · cases refused
  · exact plainFaults_mismatch _ _ shared fault refused

/-- A text that may be missing is refused with a plain fault. -/
theorem plainFaults_readOptionalText : PlainFaults (readOptionalText (L := L)) := by
  intro value shared fault refused
  unfold readOptionalText at refused
  split at refused
  · cases refused
  · -- A text that is there is refused as any other.
    exact plainFaults_readText value shared fault (eq_error_of_map some refused)

/-- A unit of indentation is refused with a plain fault. -/
theorem plainFaults_readIndent (label : L) : PlainFaults (readIndent label) := by
  intro value shared fault refused
  unfold readIndent at refused
  split at refused
  · -- A width that is no byte, or names no unit, is told as an integer.
    split at refused
    · split at refused
      · cases refused
      · cases refused
        exact fun style other => rfl
    · cases refused
      exact fun style other => rfl
  · exact plainFaults_mismatch _ _ shared fault refused

/-- A row with surplus items is told by their count. -/
theorem plain_of_checkSurplus {shape : Record L R} {surplus : Surplus} {value : Tree L}
    {fault : Fault L} (refused : shape.checkSurplus surplus value = .error fault) :
    fault.problem.IsPlain := by
  unfold Record.checkSurplus at refused
  split at refused
  · split at refused
    · cases refused
      exact fun style other => rfl
    · cases refused
  · cases refused

/-- Settings are refused with a plain fault, be they a table or a row. -/
theorem plainFaults_readSettings (surplus : Surplus) :
    PlainFaults (readSettings (L := L) surplus) := by
  have fields : ∀ field ∈ (settingsRecord (L := L)).fields, field.PlainFaults :=
    List.forall_iff_forall_mem.mp
      ⟨plainFaults_of_read fun _ => plainFaults_readText,
        plainFaults_of_read fun _ => plainFaults_readText,
        plainFaults_of_read plainFaults_readIndent⟩
  intro value shared fault refused
  rw [readSettings] at refused
  -- The fault is one of a field, or one of the items that are left over.
  rcases error_of_bind refused with here | ⟨settings, -, behind⟩
  · exact plainFaults_read fields _ value shared fault here
  · rcases error_of_bind behind with surplus | ⟨_, -, done⟩
    · exact plain_of_checkSurplus surplus
    · cases done

/-- What a member lacks is told by its name, or by the count of items. -/
theorem plain_of_complete {draft : MemberDraft} {value : Tree L} {fault : Fault L}
    (refused : draft.complete value = .error fault) : fault.problem.IsPlain := by
  have lacks : ∀ name, (lacking name value).problem.IsPlain := by
    intro name style other
    cases value <;> rfl
  unfold MemberDraft.complete at refused
  split at refused
  · cases refused
  · cases refused
    exact lacks _
  · cases refused
    exact lacks _

/-- A member is refused with a plain fault, be it a table or a row. -/
theorem plainFaults_readMember (surplus : Surplus) :
    PlainFaults (readMember (L := L) surplus) := by
  have fields : ∀ field ∈ (memberRecord (L := L)).fields, field.PlainFaults :=
    List.forall_iff_forall_mem.mp
      ⟨plainFaults_of_read fun _ => plainFaults_readText,
        plainFaults_of_read fun _ => plainFaults_readText,
        plainFaults_of_read fun _ => plainFaults_readOptionalText⟩
  intro value shared fault refused
  rw [readMember] at refused
  -- The fault is one of a field, or a member lacks something, or items are left over.
  rcases error_of_bind refused with here | ⟨draft, -, behind⟩
  · exact plainFaults_read fields _ value shared fault here
  rcases error_of_bind behind with lacks | ⟨member, -, last⟩
  · exact plain_of_complete lacks
  · rcases error_of_bind last with surplus | ⟨_, -, done⟩
    · exact plain_of_checkSurplus surplus
    · cases done

/-- Two readers agree: they find the same, or refuse with the same message in their notations. -/
def Agrees (alone : Except (Fault L) α) (within : Except (Fault M) α) : Prop :=
  match alone, within with
  | .ok found, .ok other => found = other
  | .error fault, .error other =>
    fault.problem.message .scientific = other.problem.message .positional
  | _, _ => False

/-- A reader agrees with what is read alone, on every tree of some value. -/
def AgreesOn (alone : Except (Fault L) α) (value : Tree L) (read : Tree M → Except (Fault M) α) :
    Prop :=
  ∀ other : Tree M, value.sameValue other = true → Agrees alone (read other)

/-- What is the same but for labels agrees, where no message follows a notation. -/
theorem agrees_of_carry {alone : Except (Fault L) α} {within : Except (Fault M) α}
    (same : carry (fun _ => ()) id alone = carry (fun _ => ()) id within)
    (plain : ∀ fault, alone = .error fault → fault.problem.IsPlain) : Agrees alone within := by
  cases alone with
  | ok found => cases within <;> simp_all [carry, Agrees]
  | error fault =>
    cases within with
    | ok other => simp [carry] at same
    | error other =>
      -- Labels aside the faults are equal, and a plain one is told alike in both formats.
      simp only [carry, Fault.map, Except.error.injEq, Fault.mk.injEq, and_true] at same
      simp only [Agrees, ← same]
      exact plain fault rfl _ _

/-- A row that has no surplus is not refused for it. -/
theorem checkSurplus_of_itemCount {shape : Record L R} {value : Tree L}
    (few : value.itemCount ≤ shape.fields.length) (surplus : Surplus) :
    shape.checkSurplus surplus value = .ok () := by
  -- Only a row can have more items than there are fields.
  cases value with
  | sequence label items => exact if_neg fun surplus => Nat.not_lt.mpr few surplus.2
  | null label => rfl
  | boolean label value => rfl
  | integer label value => rfl
  | float label value => rfl
  | valueless label => rfl
  | text label value => rfl
  | moment label => rfl
  | table label fields => rfl

/-- Settings without surplus are read in one way. -/
theorem readSettings_of_itemCount {value : Tree L} (few : value.itemCount ≤ 3) :
    readSettings .refused value = readSettings .ignored value := by
  have checks : ∀ surplus, settingsRecord.checkSurplus surplus value = .ok () :=
    checkSurplus_of_itemCount few
  simp only [readSettings, checks]

/-- Members without surplus are read in one way. -/
theorem readMember_of_itemCount {value : Tree L} (few : value.itemCount ≤ 3) :
    readMember .refused value = readMember .ignored value := by
  have checks : ∀ surplus, memberRecord.checkSurplus surplus value = .ok () :=
    checkSurplus_of_itemCount few
  simp only [readMember, checks]

/-- A manifest with nothing but settings. -/
def settingsRoot (value : Tree Unit) : Tree Unit := .table () [(⟨"config", ()⟩, value)]

/-- A manifest with nothing but a width. -/
def indentRoot (value : Tree Unit) : Tree Unit := settingsRoot (.table () [(⟨"indent", ()⟩, value)])

/-- A manifest with nothing but a member. -/
def memberRoot (value : Tree Unit) : Tree Unit :=
  .table () [(⟨"declarations", ()⟩,
    .sequence () [.table () [(⟨"members", ()⟩, .sequence () [value])]])]

/-- A table of one field is read by entering it. -/
theorem read_singleton (shape : Record L R) (start : R) (label : L) (pair : Key L × Tree L) :
    shape.read start (.table label [pair]) = shape.putPair start pair := by
  rw [Record.read, sortedByKey, List.foldr_cons, List.foldr_nil, insertByKey, List.foldlM_cons]
  cases shape.putPair start pair <;> rfl

/-- A row of one value is read as that value is. -/
theorem readEach_singleton (read : Tree L → Except (Fault L) α) (label : L) (item : Tree L) :
    readEach read (.sequence label [item]) = (read item).map ([·]) := by
  rw [readEach, List.mapM_cons]
  cases read item <;> rfl

/-- Settings are entered into a manifest that has nothing else. -/
theorem putPair_config (locate : Unit → Span) (value : Tree Unit) :
    (manifestRecord locate).putPair {} (⟨"config", ()⟩, value) =
      (readSettings .ignored value).map fun settings => { settings } := rfl

/-- Settings that stand alone are all that a manifest has. -/
theorem readManifest_settingsRoot (locate : Unit → Span) (value : Tree Unit) :
    (readManifest locate (settingsRoot value)).map (·.settings) = readSettings .ignored value := by
  rw [settingsRoot, readManifest, read_singleton, putPair_config]
  cases readSettings .ignored value <;> rfl

/-- A width that stands alone is all that the settings of a manifest have. -/
theorem readManifest_indentRoot (locate : Unit → Span) (value : Tree Unit) :
    (readManifest locate (indentRoot value)).map (·.settings.indent) = readIndent () value := by
  have entered : settingsRecord.putPair {} (⟨"indent", ()⟩, value) =
      (readIndent () value).map fun indent => { indent } := rfl
  rw [indentRoot, settingsRoot, readManifest, read_singleton, putPair_config, readSettings,
    read_singleton, entered]
  cases readIndent () value <;> rfl

/-- A member that stands alone is all that the only entry of a manifest has. -/
theorem readManifest_memberRoot (locate : Unit → Span) (value : Tree Unit) :
    (readManifest locate (memberRoot value)).map (·.entries.map (·.members)) =
      (readMember .ignored value).map fun member => [[member]] := by
  -- Each step down reads one field of an empty record, which keeps what is read below.
  have declared : ∀ entries, (manifestRecord locate).putPair {} (⟨"declarations", ()⟩, entries) =
      (readEach (readEntry locate) entries).map fun entries => { entries } := fun _ => rfl
  have listed : ∀ members, (entryRecord locate).putPair {} (⟨"members", ()⟩, members) =
      (readEach (readMember .ignored) members).map fun members => { members } := fun _ => rfl
  rw [readManifest, memberRoot, read_singleton, declared, readEach_singleton, readEntry,
    read_singleton, listed, readEach_singleton]
  cases readMember .ignored value <;> rfl

/-- What is seen of a manifest, but not of its places, is the same for values that are the same. -/
theorem carry_view_of_sameValue {view : Manifest → α}
    (blind : ∀ manifest, view manifest.unplaced = view manifest) {root : Tree L} {other : Tree M}
    (same : root.sameValue other = true) (locate : L → Span) (locate' : M → Span) :
    carry (fun _ => ()) id ((readManifest locate root).map view) =
      carry (fun _ => ()) id ((readManifest locate' other).map view) := by
  -- A view that is blind to places can look before or after they are taken out.
  have seen : ∀ {N : Type} (run : Except (Fault N) Manifest),
      carry (fun _ => ()) id (run.map view) =
        (carry (fun _ => ()) Manifest.unplaced run).map view := by
    intro N run
    cases run with
    | error fault => rfl
    | ok manifest => exact congrArg Except.ok (blind manifest).symm
  rw [seen, seen, carry_readManifest_of_sameValue same locate locate']

/--
Settings, members and widths are read alike on their own and in a manifest.

A row on its own may not be longer than the record that it stands for; in a manifest its surplus is
passed over.
-/
theorem records_agree {value : Tree Unit} (shared : value.isShared = true) (locate : L → Span) :
    (value.itemCount ≤ 3 →
      AgreesOn (readSettings .refused value) value (readSettings (L := L) .ignored) ∧
      AgreesOn (readSettings .refused value) (settingsRoot value)
        (fun root => (readManifest locate root).map (·.settings)) ∧
      AgreesOn (readMember .refused value) value (readMember (L := L) .ignored) ∧
      AgreesOn ((readMember .refused value).map fun member => [[member]]) (memberRoot value)
        (fun root => (readManifest locate root).map (·.entries.map (·.members)))) ∧
    (∀ label : L, AgreesOn (readIndent () value) value (readIndent label)) ∧
    AgreesOn (readIndent () value) (indentRoot value)
      (fun root => (readManifest locate root).map (·.settings.indent)) := by
  have settings := plainFaults_readSettings .ignored value shared
  have members := plainFaults_readMember .ignored value shared
  have widths := plainFaults_readIndent () value shared
  refine ⟨fun few => ?_, fun label other same => ?_, fun root same => ?_⟩
  · -- With so few items none is left over, so it does not matter what is done with those.
    rw [readSettings_of_itemCount few, readMember_of_itemCount few]
    refine ⟨fun other same => ?_, fun root same => ?_, fun other same => ?_, fun root same => ?_⟩
    · exact agrees_of_carry (carry_of_sameValue (ignoresOrder_readSettings _)
        (ignoresOrder_readSettings _) (readSettings_map _ _) (readSettings_map _ _) same) settings
    · refine agrees_of_carry ?_ settings
      rw [← readManifest_settingsRoot fun _ => default]
      exact carry_view_of_sameValue (fun _ => rfl) same _ locate
    · exact agrees_of_carry (carry_of_sameValue (ignoresOrder_readMember _)
        (ignoresOrder_readMember _) (readMember_map _ _) (readMember_map _ _) same) members
    · refine agrees_of_carry ?_ fun fault refused => members fault (eq_error_of_map _ refused)
      rw [← readManifest_memberRoot fun _ => default]
      refine carry_view_of_sameValue (fun manifest => ?_) same _ locate
      -- Leaving out the places of names leaves the members as they are.
      exact List.map_map
  · exact agrees_of_carry (carry_of_sameValue (ignoresOrder_readIndent _)
      (ignoresOrder_readIndent _) (readIndent_map _ _) (readIndent_map _ _) same) widths
  · refine agrees_of_carry ?_ widths
    rw [← readManifest_indentRoot fun _ => default]
    exact carry_view_of_sameValue (fun _ => rfl) same _ locate

/-- A width without a unit is refused alike on its own and in a document. -/
theorem records_agree_of_width :
    ∃ value tree, Toml.Document.read "config.indent = 3".toList = some tree ∧
      value.isShared = true ∧ value.itemCount ≤ 3 ∧ (settingsRoot value).sameValue tree = true ∧
      readSettings .refused value = .error ⟨.unsupportedWidth 3, ()⟩ ∧
      Agrees (readSettings .refused value)
        ((readManifest (Region.span "config.indent = 3".toList) tree).map (·.settings)) := by
  generalize text : "config.indent = 3" = source
  -- The kernel reads the document, and the tree is that of the settings alone in a manifest.
  have seen : (Toml.Document.read source.toList).map
      (settingsRoot (.table () [(⟨"indent", ()⟩, .integer () 3)])).sameValue = some true := by
    subst text
    decide +kernel
  obtain ⟨tree, document, same⟩ := Option.map_eq_some_iff.mp seen
  have shared : (Tree.table () [(⟨"indent", ()⟩, .integer () 3)]).isShared = true := by
    decide +kernel
  have few : (Tree.table () [(⟨"indent", ()⟩, .integer () 3)]).itemCount ≤ 3 := Nat.zero_le 3
  have agree := (records_agree shared (Region.span source.toList)).1 few
  exact ⟨_, tree, document, shared, few, same, rfl, agree.2.1 tree same⟩

end Schema

end DeclGen
