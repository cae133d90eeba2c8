import DeclGen.Proofs.KeyOrder
import DeclGen.Proofs.Schema.ManifestLabels

/-! The order of keys has no say in what is read: a reader visits every table in its own order. -/

namespace DeclGen

namespace Tree

variable {L : Type}

/-- A value is found under its label in any order. -/
@[simp] theorem label_inOrder (value : Tree L) : value.inOrder.label = value.label := by
  cases value <;> rfl

/-- Fields pass a test in any order. -/
theorem allFields_insertByKey (test : Tree L → Bool) (field : Key L × Tree L)
    (fields : List (Key L × Tree L)) :
    allFields test (Schema.insertByKey field fields) =
      (field.2.all test && allFields test fields) := by
  induction fields with
  | nil => rfl
  | cons other rest ih =>
    rw [Schema.insertByKey]
    -- The field is put in here, or the test of the other field comes first.
    split
    · rfl
    · rw [allFields, ih, allFields, Bool.and_left_comm]

mutual

/-- A test that has no regard for order passes all nodes of a value in any order. -/
theorem all_inOrder {test : Tree L → Bool} (same : ∀ value, test value.inOrder = test value)
    (value : Tree L) : value.inOrder.all test = value.all test := by
  -- Only rows and tables have parts that could be put in order.
  cases value with
  | sequence label items =>
    have here := same (.sequence label items)
    simp only [inOrder] at here
    simp only [inOrder, all, here, allItems_inOrderItems same items]
  | table label fields =>
    have here := same (.table label fields)
    simp only [inOrder] at here
    simp only [inOrder, all, here, allFields_inOrderFields same fields]
  | null label => rfl
  | boolean label value => rfl
  | integer label value => rfl
  | float label value => rfl
  | valueless label => rfl
  | text label value => rfl
  | moment label => rfl

/-- A test that ignores the order of keys does so for all items of a list. -/
theorem allItems_inOrderItems {test : Tree L → Bool}
    (same : ∀ value, test value.inOrder = test value) (items : List (Tree L)) :
    allItems test (inOrderItems items) = allItems test items := by
  cases items with
  | nil => rfl
  | cons item rest =>
    simp only [inOrderItems, allItems, all_inOrder same item, allItems_inOrderItems same rest]

/-- A test that ignores the order of keys does so for all fields of a table. -/
theorem allFields_inOrderFields {test : Tree L → Bool}
    (same : ∀ value, test value.inOrder = test value) (fields : List (Key L × Tree L)) :
    allFields test (inOrderFields fields) = allFields test fields := by
  cases fields with
  | nil => rfl
  | cons field rest =>
    simp only [inOrderFields, allFields_insertByKey, allFields, all_inOrder same field.2,
      allFields_inOrderFields same rest]

end

/-- Whether a value can be skipped has nothing to do with the order of keys. -/
@[simp] theorem skippable_inOrder (value : Tree L) : value.inOrder.skippable = value.skippable :=
  all_inOrder (fun value => by cases value <;> rfl) value

end Tree

namespace Schema

variable {L R α : Type}

/-- A reader that finds the same in a value, in whatever order its keys are. -/
def IgnoresOrder (read : Tree L → Except (Fault L) α) : Prop :=
  ∀ value, read value.inOrder = read value

/-- A field that enters the same from a value, in whatever order its keys are. -/
def Field.IgnoresOrder (field : Field L R) : Prop :=
  ∀ label value record, field.put label value.inOrder record = field.put label value record

/-- A record whose fields all enter the same, in whatever order keys are. -/
def Record.IgnoresOrder (shape : Record L R) : Prop :=
  ∀ field ∈ shape.fields, field.IgnoresOrder

/-- A pair of a table is entered in the same way if its value is in order. -/
theorem Record.IgnoresOrder.putPair {shape : Record L R} (ignores : shape.IgnoresOrder) (record : R)
    (pair : Key L × Tree L) :
    shape.putPair record (Tree.inOrderField pair) = shape.putPair record pair := by
  -- Putting a value in order keeps its label and, by assumption, what a field takes from it.
  unfold Record.putPair Tree.inOrderField
  cases found : shape.fields.find? (·.name = pair.1.name) with
  | none => simp
  | some field =>
    simp only [Tree.label_inOrder]
    exact ignores field (List.mem_of_find?_eq_some found) _ _ _

/-- The items of a row are entered in the same way if each of them is in order. -/
theorem foldlM_putItem_inOrder {fields : List (Field L R)}
    (ignores : ∀ field ∈ fields, field.IgnoresOrder) (label : L) (items : List (Tree L))
    (start : R) :
    (fields.zip (items.map Tree.inOrder)).foldlM (Record.putItem label) start =
      (fields.zip items).foldlM (Record.putItem label) start := by
  -- Fields and items are taken in step.
  induction fields generalizing items start with
  | nil => rfl
  | cons field fields ih =>
    cases items with
    | nil => rfl
    | cons item items =>
      obtain ⟨here, behind⟩ := List.forall_mem_cons.mp ignores
      simp only [List.map_cons, List.zip_cons_cons, List.foldlM_cons, Record.putItem,
        here label item start, ih behind]

/-- A record is read in the same way in whatever order keys are. -/
theorem Record.IgnoresOrder.read {shape : Record L R} (ignores : shape.IgnoresOrder) (start : R) :
    Schema.IgnoresOrder (shape.read start) := by
  intro value
  cases value with
  | table label pairs =>
    -- Every pair is entered alike, whatever the order is within its value.
    have each : ∀ pairs : List (Key L × Tree L), ∀ start,
        (pairs.map Tree.inOrderField).foldlM shape.putPair start =
          pairs.foldlM shape.putPair start := by
      intro pairs start
      rw [List.foldlM_map]
      simp only [ignores.putPair]
    -- The table is in order already, and sorting it once more keeps it so.
    have visited : sortedByKey (pairs.map Tree.inOrderField) =
        (sortedByKey pairs).map Tree.inOrderField :=
      sortedByKey_map_of_names Tree.inOrderField (fun _ => rfl) pairs
    rw [Tree.inOrder, Record.read, Record.read, Tree.inOrderFields_eq_sortedByKey,
      sortedByKey_sortedByKey, visited, each]
  | sequence label items =>
    rw [Tree.inOrder, Record.read, Record.read, Tree.inOrderItems_eq_map]
    exact foldlM_putItem_inOrder ignores label items start
  | null label => rfl
  | boolean label value => rfl
  | integer label value => rfl
  | float label value => rfl
  | valueless label => rfl
  | text label value => rfl
  | moment label => rfl

/-- A text is read alike in any order of keys, as it has none. -/
theorem ignoresOrder_readText : IgnoresOrder (readText (L := L)) := by
  intro value
  cases value <;> rfl

/-- A text that may be missing is read alike in any order of keys. -/
theorem ignoresOrder_readOptionalText : IgnoresOrder (readOptionalText (L := L)) := by
  intro value
  cases value <;> rfl

/-- A truth value is read alike in any order of keys. -/
theorem ignoresOrder_readBoolean : IgnoresOrder (readBoolean (L := L)) := by
  intro value
  cases value <;> rfl

/-- A unit of indentation is read alike in any order of keys, be it a text or a number. -/
theorem ignoresOrder_readIndent (label : L) : IgnoresOrder (readIndent label) := by
  intro value
  cases value <;> rfl

/-- Values in a row are read in the same way if each of them is. -/
theorem ignoresOrder_readEach {read : Tree L → Except (Fault L) α} (each : IgnoresOrder read) :
    IgnoresOrder (readEach read) := by
  intro value
  -- A row is read item by item; everything else is refused by its type.
  cases value with
  | sequence label items =>
    have same : read ∘ Tree.inOrder = read := funext each
    rw [Tree.inOrder, readEach, readEach, Tree.inOrderItems_eq_map, List.mapM_map, same]
  | null label => rfl
  | boolean label value => rfl
  | integer label value => rfl
  | float label value => rfl
  | valueless label => rfl
  | text label value => rfl
  | moment label => rfl
  | table label fields => rfl

/-- A field enters the same in whatever order keys are, if its reader finds the same. -/
theorem ignoresOrder_of_read {name : String} {read : L → Tree L → Except (Fault L) α}
    {enter : R → α → R} (ignores : ∀ label, IgnoresOrder (read label)) :
    Field.IgnoresOrder
      ⟨name, fun label value record => do return enter record (← read label value)⟩ := by
  intro label value record
  simp only [ignores label value]

/-- No field of the settings depends on the order of keys. -/
theorem settingsRecord_ignoresOrder : (settingsRecord (L := L)).IgnoresOrder :=
  List.forall_iff_forall_mem.mp
    ⟨ignoresOrder_of_read fun _ => ignoresOrder_readText,
      ignoresOrder_of_read fun _ => ignoresOrder_readText,
      ignoresOrder_of_read ignoresOrder_readIndent⟩

/-- A row has as many items in any order of keys. -/
theorem checkSurplus_inOrder (shape : Record L R) (surplus : Surplus) (value : Tree L) :
    shape.checkSurplus surplus value.inOrder = shape.checkSurplus surplus value := by
  -- Only the length of a row is looked at, which no order of keys changes.
  cases value with
  | sequence label items =>
    simp only [Tree.inOrder, Record.checkSurplus, Tree.inOrderItems_eq_map, List.length_map]
  | null label => rfl
  | boolean label value => rfl
  | integer label value => rfl
  | float label value => rfl
  | valueless label => rfl
  | text label value => rfl
  | moment label => rfl
  | table label fields => rfl

/-- Settings are read alike from a table in any order of its keys. -/
theorem ignoresOrder_readSettings (surplus : Surplus) :
    IgnoresOrder (readSettings (L := L) surplus) := by
  intro value
  rw [readSettings, readSettings, settingsRecord_ignoresOrder.read {} value]
  simp only [checkSurplus_inOrder]

/-- No field of a member depends on the order of keys. -/
theorem memberRecord_ignoresOrder : (memberRecord (L := L)).IgnoresOrder :=
  List.forall_iff_forall_mem.mp
    ⟨ignoresOrder_of_read fun _ => ignoresOrder_readText,
      ignoresOrder_of_read fun _ => ignoresOrder_readText,
      ignoresOrder_of_read fun _ => ignoresOrder_readOptionalText⟩

/-- What a member lacks is told in the same way in any order of its keys. -/
theorem lacking_inOrder (name : String) (value : Tree L) :
    lacking name value.inOrder = lacking name value := by
  cases value <;> simp [lacking, Tree.inOrder, Tree.inOrderItems_eq_map, Tree.label]

/-- A member is read alike from a table in any order of its keys. -/
theorem ignoresOrder_readMember (surplus : Surplus) :
    IgnoresOrder (readMember (L := L) surplus) := by
  intro value
  rw [readMember, readMember, memberRecord_ignoresOrder.read {} value]
  simp only [MemberDraft.complete, lacking_inOrder, checkSurplus_inOrder]

/-- A field that holds a text does not depend on the order of keys. -/
theorem ignoresOrder_textField (name : String) (put : Entry → Option String → Entry) :
    (textField (L := L) name put).IgnoresOrder :=
  ignoresOrder_of_read fun _ => ignoresOrder_readOptionalText

/-- A text is read with its place alike in any order of keys. -/
theorem ignoresOrder_readLocated (locate : L → Span) : IgnoresOrder (readLocated locate) := by
  intro value
  rw [readLocated, readLocated, ignoresOrder_readText value, Tree.label_inOrder]

/-- No field of an entry depends on the order of keys, its members included. -/
theorem entryRecord_ignoresOrder (locate : L → Span) : (entryRecord locate).IgnoresOrder :=
  List.forall_iff_forall_mem.mp
    ⟨ignoresOrder_textField _ _, ignoresOrder_of_read fun _ => ignoresOrder_readLocated locate,
      ignoresOrder_textField _ _, ignoresOrder_textField _ _, ignoresOrder_textField _ _,
      ignoresOrder_textField _ _, ignoresOrder_textField _ _,
      ignoresOrder_of_read fun _ => ignoresOrder_readBoolean, ignoresOrder_textField _ _,
      ignoresOrder_of_read fun _ => ignoresOrder_readEach (ignoresOrder_readMember .ignored)⟩

/-- An entry is read alike from a table in any order of its keys. -/
theorem ignoresOrder_readEntry (locate : L → Span) : IgnoresOrder (readEntry locate) :=
  (entryRecord_ignoresOrder locate).read {}

/-- Neither the settings nor the declarations depend on the order of keys. -/
theorem manifestRecord_ignoresOrder (locate : L → Span) : (manifestRecord locate).IgnoresOrder :=
  List.forall_iff_forall_mem.mp
    ⟨ignoresOrder_of_read fun _ => ignoresOrder_readSettings .ignored,
      ignoresOrder_of_read fun _ => ignoresOrder_readEach (ignoresOrder_readEntry locate)⟩

/-- A manifest is read in the same way in whatever order the keys of its tables are. -/
theorem ignoresOrder_readManifest (locate : L → Span) : IgnoresOrder (readManifest locate) :=
  (manifestRecord_ignoresOrder locate).read {}

/-- Values that are the same are read alike, but for labels, by what has no regard for these. -/
theorem carry_of_sameValue {M β : Type} {read : Tree L → Except (Fault L) α}
    {read' : Tree M → Except (Fault M) α} {core : Tree Unit → Except (Fault Unit) β} {view : α → β}
    (ignores : IgnoresOrder read) (ignores' : IgnoresOrder read')
    (labels : ∀ value, core value.erase = carry (fun _ => ()) view (read value))
    (labels' : ∀ value, core value.erase = carry (fun _ => ()) view (read' value))
    {value : Tree L} {other : Tree M} (same : value.sameValue other = true) :
    carry (fun _ => ()) view (read value) = carry (fun _ => ()) view (read' other) := by
  -- Both are read from the one form in order that they share.
  rw [← ignores value, ← ignores' other, ← labels, ← labels',
    (Tree.sameValue_iff value other).mp same]

/-- Values that are the same are read as the same manifest, but for labels and places. -/
theorem carry_readManifest_of_sameValue {M : Type} {value : Tree L} {other : Tree M}
    (same : value.sameValue other = true) (locate : L → Span) (locate' : M → Span) :
    carry (fun _ => ()) Manifest.unplaced (readManifest locate value) =
      carry (fun _ => ()) Manifest.unplaced (readManifest locate' other) :=
  carry_of_sameValue (ignoresOrder_readManifest locate) (ignoresOrder_readManifest locate')
    (readManifest_map _ locate) (readManifest_map _ locate') same

end Schema

end DeclGen
