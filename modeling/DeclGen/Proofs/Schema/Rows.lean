import DeclGen.Proofs.Schema.ManifestFaults
import DeclGen.Proofs.Schema.Parts

/-!
A record that is written as a row, and the table that gives its first fields the same values.

Fields enter their values in any order, so both are accepted as the same record, or neither is.
-/

namespace DeclGen

/-- A run is accepted if both of its parts are. -/
theorem toOption_bind {ε α β : Type} (run : Except ε α) (next : α → Except ε β) :
    (run >>= next).toOption = run.toOption.bind fun result => (next result).toOption := by
  cases run <;> rfl

/-- Runs of steps that are accepted alike are accepted alike. -/
theorem toOption_foldlM_congr {ε ι ρ : Type} {step step' : ρ → ι → Except ε ρ} {items : List ι}
    (alike : ∀ item ∈ items, ∀ record, (step record item).toOption = (step' record item).toOption)
    (start : ρ) : (items.foldlM step start).toOption = (items.foldlM step' start).toOption := by
  -- A fault ends both runs at the same item, and which fault it is does not show.
  induction items generalizing start with
  | nil => rfl
  | cons item items ih =>
    obtain ⟨here, behind⟩ := List.forall_mem_cons.mp alike
    simp only [List.foldlM_cons, toOption_bind, here, ih behind]

namespace Schema

variable {L R α β : Type}

/-- Two fields enter their values in either order, and a fault is met in both or in none. -/
def Field.Commutes (one other : Field L R) : Prop :=
  ∀ label label' value value' record,
    (one.put label value record >>= other.put label' value').toOption =
      (other.put label' value' record >>= one.put label value).toOption

/-- A record whose fields have names of their own and enter values in any order, at any label. -/
structure Record.Orderless (shape : Record L R) : Prop where
  /-- No two fields have one name. -/
  names : (shape.fields.map (·.name)).Nodup
  /-- Fields are entered in any order. -/
  commute : shape.fields.Pairwise Field.Commutes
  /-- The label has no say in what is accepted. -/
  labels : ∀ field ∈ shape.fields, ∀ label label' value record,
    (field.put label value record).toOption = (field.put label' value record).toOption

/-- The table that gives the first of some fields these values. -/
def tableOf (label : L) (names : List String) (items : List (Tree L)) : Tree L :=
  .table label ((names.zip items).map fun (name, item) => (⟨name, label⟩, item))

section Order

variable {step : R → Key L × Tree L → Except (Fault L) R}

/-- Two pairs of a table are entered in either order. -/
def Commute (step : R → Key L × Tree L → Except (Fault L) R) (one other : Key L × Tree L) : Prop :=
  ∀ record, (step record one >>= (step · other)).toOption =
    (step record other >>= (step · one)).toOption

/-- A pair that is inserted among pairs in any order could as well come first. -/
theorem toOption_foldlM_insertByKey {pair : Key L × Tree L} {pairs : List (Key L × Tree L)}
    (commutes : ∀ other ∈ pairs, Commute step pair other) (start : R) :
    ((insertByKey pair pairs).foldlM step start).toOption =
      ((pair :: pairs).foldlM step start).toOption := by
  induction pairs generalizing start with
  | nil => rfl
  | cons other rest ih =>
    obtain ⟨here, behind⟩ := List.forall_mem_cons.mp commutes
    rw [insertByKey]
    split
    · rfl
    · -- Behind the other pair it could come first, and then the two are exchanged.
      have later := fun record => ih behind record
      calc ((other :: insertByKey pair rest).foldlM step start).toOption
          = ((step start other >>= (step · pair)).toOption).bind
              fun record => (rest.foldlM step record).toOption := by
            simp only [List.foldlM_cons, toOption_bind, later, Option.bind_assoc]
        _ = ((pair :: other :: rest).foldlM step start).toOption := by
            rw [← here start]
            simp only [List.foldlM_cons, toOption_bind, Option.bind_assoc]

/-- Pairs that are entered in any order can be entered as they stand. -/
theorem toOption_foldlM_sortedByKey {pairs : List (Key L × Tree L)}
    (commute : pairs.Pairwise (Commute step)) (start : R) :
    ((sortedByKey pairs).foldlM step start).toOption = (pairs.foldlM step start).toOption := by
  induction commute generalizing start with
  | nil => rfl
  | @cons pair rest commutes _ ih =>
    have first : ∀ other ∈ sortedByKey rest, Commute step pair other :=
      fun other member => commutes other ((mem_sortedByKey rest other).mp member)
    -- The first pair is inserted among the others, and could as well be entered before them.
    change ((insertByKey pair (sortedByKey rest)).foldlM step start).toOption = _
    rw [toOption_foldlM_insertByKey first]
    simp only [List.foldlM_cons, toOption_bind, ih]

end Order

/-- What holds between any two fields holds between them with values beside them. -/
theorem pairwise_zip {A B : Type} {Rel : A → A → Prop} {left : List A} (apart : left.Pairwise Rel)
    (right : List B) : (left.zip right).Pairwise fun one other => Rel one.1 other.1 := by
  -- Both lists lose an item in each step, and the shorter one ends the pairs.
  induction apart generalizing right with
  | nil => exact .nil
  | cons first _ ih =>
    cases right with
    | nil => exact .nil
    | cons item right =>
      exact .cons (fun pair member => first _ (List.of_mem_zip member).1) (ih right)

namespace Record.Orderless

variable {shape : Record L R}

/-- A field is found by its name. -/
theorem find?_name (orderless : shape.Orderless) {field : Field L R}
    (known : field ∈ shape.fields) :
    shape.fields.find? (·.name = field.name) = some field := by
  obtain ⟨front, behind, parts⟩ := List.append_of_mem known
  have names := orderless.names
  rw [parts, List.map_append, List.map_cons, List.nodup_append] at names
  -- No field in front of it has its name.
  have before : front.find? (·.name = field.name) = none := by
    simp only [List.find?_eq_none, decide_eq_true_eq]
    intro other member same
    exact names.2.2 _ (List.mem_map_of_mem member) _ (by simp) same
  rw [parts, List.find?_append, before, Option.none_or, List.find?_cons_of_pos (by simp)]

/-- The pair of a field is entered by that field. -/
theorem putPair_name (orderless : shape.Orderless) {field : Field L R}
    (known : field ∈ shape.fields) (record : R) (label : L) (value : Tree L) :
    shape.putPair record (⟨field.name, label⟩, value) = field.put value.label value record := by
  rw [Record.putPair, orderless.find?_name known]

/-- A row is accepted as the table that gives its fields the same values. -/
theorem toOption_read (orderless : shape.Orderless) (label label' : L) (items : List (Tree L))
    (start : R) :
    (shape.read start (tableOf label (shape.fields.map (·.name)) items)).toOption =
      (shape.read start (.sequence label' items)).toOption := by
  -- The pairs of the table are the items of the row, each with the name of its field.
  have pairs : ((shape.fields.map (·.name)).zip items).map
        (fun (name, item) => ((⟨name, label⟩ : Key L), item)) =
      (shape.fields.zip items).map fun (field, item) => (⟨field.name, label⟩, item) := by
    rw [List.zip_map_left, List.map_map]
    rfl
  have commute : ((shape.fields.zip items).map fun (field, item) =>
      ((⟨field.name, label⟩ : Key L), item)).Pairwise (Commute shape.putPair) := by
    rw [List.pairwise_map]
    refine (pairwise_zip orderless.commute items).imp_of_mem fun one other commutes record => ?_
    simp only [orderless.putPair_name (List.of_mem_zip one).1,
      orderless.putPair_name (List.of_mem_zip other).1]
    exact commutes _ _ _ _ record
  rw [tableOf, pairs, Record.read, Record.read, toOption_foldlM_sortedByKey commute,
    List.foldlM_map]
  -- Item by item, the same field enters the same value, and only the labels differ.
  refine toOption_foldlM_congr (fun item member record => ?_) start
  obtain ⟨field, value⟩ := item
  have known := (List.of_mem_zip member).1
  rw [orderless.putPair_name known]
  exact orderless.labels field known _ _ _ _

end Record.Orderless

/-- Fields that enter what they read in either order can be entered in either order. -/
theorem commutes_of_read {name name' : String} {read : L → Tree L → Except (Fault L) α}
    {read' : L → Tree L → Except (Fault L) β} {enter : R → α → R} {enter' : R → β → R}
    (apart : ∀ record one other,
      enter' (enter record one) other = enter (enter' record other) one) :
    Field.Commutes ⟨name, fun label value record => do return enter record (← read label value)⟩
      ⟨name', fun label value record => do return enter' record (← read' label value)⟩ := by
  intro label label' value value' record
  cases one : read label value <;> cases other : read' label' value' <;>
    simp [one, other, apart, Bind.bind, Except.bind, Pure.pure, Except.pure, Except.toOption]

/-- A width is accepted at any label. -/
theorem toOption_readIndent (label label' : L) (value : Tree L) :
    (readIndent label value).toOption = (readIndent label' value).toOption := by
  -- The label given apart shows only in the fault of an unsupported width.
  cases value with
  | integer place number =>
    simp only [readIndent]
    split
    · cases indentOfWidth? number.toNat <;> rfl
    · rfl
  | null label => rfl
  | boolean label value => rfl
  | float label value => rfl
  | valueless label => rfl
  | text label value => rfl
  | moment label => rfl
  | sequence label items => rfl
  | table label fields => rfl

/-- Settings may be given in any order of their names. -/
theorem settingsRecord_orderless : (settingsRecord (L := L)).Orderless where
  names := (by decide : Part.settings.fields.Nodup)
  commute := by
    simp only [settingsRecord, List.pairwise_cons, List.forall_mem_cons, List.not_mem_nil,
      false_implies, implies_true, List.Pairwise.nil, and_true]
    -- Every field sets a component of its own, so any two of them commute.
    and_intros <;> exact commutes_of_read fun _ _ _ => rfl
  labels := List.forall_iff_forall_mem.mp
    ⟨fun _ _ _ _ => rfl, fun _ _ _ _ => rfl, fun label label' value record => by
      simp only [toOption_bind, toOption_readIndent label label']⟩

/-- A member may be given in any order of its names. -/
theorem memberRecord_orderless : (memberRecord (L := L)).Orderless where
  names := (by decide : Part.member.fields.Nodup)
  commute := by
    simp only [memberRecord, List.pairwise_cons, List.forall_mem_cons, List.not_mem_nil,
      false_implies, implies_true, List.Pairwise.nil, and_true]
    -- Every field sets a component of its own, so any two of them commute.
    and_intros <;> exact commutes_of_read fun _ _ _ => rfl
  labels := List.forall_iff_forall_mem.mp
    ⟨fun _ _ _ _ => rfl, fun _ _ _ _ => rfl, fun _ _ _ _ => rfl⟩

/-- An entry may be given in any order of its names. -/
theorem entryRecord_orderless (locate : L → Span) : (entryRecord locate).Orderless where
  names := (by decide : Part.entry.fields.Nodup)
  commute := by
    simp only [entryRecord, List.pairwise_cons, List.forall_mem_cons, List.not_mem_nil,
      false_implies, implies_true, List.Pairwise.nil, and_true]
    -- Every field sets a component of its own, so any two of them commute.
    and_intros <;> exact commutes_of_read fun _ _ _ => rfl
  labels := List.forall_iff_forall_mem.mp (by and_intros <;> exact fun _ _ _ _ => rfl)

/-- A manifest may be given in any order of its names. -/
theorem manifestRecord_orderless (locate : L → Span) : (manifestRecord locate).Orderless where
  names := (by decide : Part.manifest.fields.Nodup)
  commute := by
    simp only [manifestRecord, List.pairwise_cons, List.forall_mem_cons, List.not_mem_nil,
      false_implies, implies_true, List.Pairwise.nil, and_true]
    -- There are only two fields, so there is one pair of them.
    exact commutes_of_read fun _ _ _ => rfl
  labels := List.forall_iff_forall_mem.mp ⟨fun _ _ _ _ => rfl, fun _ _ _ _ => rfl⟩

/-- A draft is complete in a table if it is complete in a row. -/
theorem toOption_complete (draft : MemberDraft) (value other : Tree L) :
    (draft.complete value).toOption = (draft.complete other).toOption := by
  rcases draft with ⟨_ | name, _ | text, comment⟩ <;> rfl

/-- A member that is a row is accepted as the table that gives its first fields the same values. -/
theorem toOption_readMember (label label' : L) (items : List (Tree L)) :
    (readMember .ignored (tableOf label Part.member.fields items)).toOption =
      (readMember .ignored (.sequence label' items)).toOption := by
  have record : (memberRecord.read {} (tableOf label Part.member.fields items)).toOption =
      (memberRecord.read {} (.sequence label' items)).toOption :=
    memberRecord_orderless.toOption_read label label' items {}
  -- Whether a draft is complete depends on the draft alone; the value only labels the fault.
  have complete := fun draft : MemberDraft =>
    toOption_complete draft (tableOf label Part.member.fields items) (.sequence label' items)
  rw [readMember_ignored, readMember_ignored, toOption_bind, toOption_bind, record]
  exact congrArg (Option.bind _) (funext complete)

/-- A record that is a row is accepted as the table that gives its first fields the same values. -/
theorem Part.toOption_read (locate : L → Span) (part : Part) (label label' : L)
    (items : List (Tree L)) :
    (part.read locate (tableOf label part.fields items)).toOption =
      (part.read locate (.sequence label' items)).toOption := by
  -- Each part has a record whose fields can be read in any order.
  cases part with
  | manifest => exact (manifestRecord_orderless locate).toOption_read label label' items {}
  | settings =>
    rw [Part.read, readSettings_ignored, readSettings_ignored]
    exact settingsRecord_orderless.toOption_read label label' items {}
  | entry => exact (entryRecord_orderless locate).toOption_read label label' items {}
  | member => exact toOption_readMember label label' items

/-- A row that is too short for what a member must have is refused. -/
theorem toOption_readMember_of_short (label : L) {items : List (Tree L)}
    (short : items.length < 2) :
    (readMember .ignored (.sequence label items)).toOption = none := by
  rw [readMember_ignored]
  cases taken : memberRecord.read {} (.sequence label items) with
  | error fault => rfl
  | ok draft =>
    -- What the draft lacks is a reason to refuse it.
    have lacks := refusal_complete taken
    rw [Layout.lackFaults, if_pos (show items.length < memberLayout.required.length from short)]
      at lacks
    change (draft.complete (.sequence label items)).toOption = none
    cases complete : draft.complete (.sequence label items) with
    | error fault => rfl
    | ok member => simp [complete] at lacks

/-- Items behind those of all fields are passed over. -/
theorem zip_append_of_length_le {A B : Type} {left : List A} {right : List B}
    (enough : left.length ≤ right.length) (more : List B) :
    left.zip (right ++ more) = left.zip right := by
  rw [List.zip_eq_zip_take_min, (List.zip_eq_zip_take_min : left.zip right = _), List.length_append,
    Nat.min_eq_left (Nat.le_add_right_of_le enough), Nat.min_eq_left enough,
    List.take_append_of_le_length enough]

/-- A row that has all fields of its record gives them nothing more. -/
theorem Record.read_row_append (shape : Record L R) (start : R) (label : L) {items : List (Tree L)}
    (full : shape.fields.length ≤ items.length) (more : List (Tree L)) :
    shape.read start (.sequence label (items ++ more)) =
      shape.read start (.sequence label items) := by
  rw [Record.read, Record.read, zip_append_of_length_le full]

/-- A member that is a row is read in one way if it has all fields, whatever else it has. -/
theorem readMember_row_append (label : L) {items : List (Tree L)} (full : 3 ≤ items.length)
    (more : List (Tree L)) :
    readMember .ignored (.sequence label (items ++ more)) =
      readMember .ignored (.sequence label items) := by
  rw [readMember_ignored, readMember_ignored, memberRecord.read_row_append {} label full more]
  cases taken : memberRecord.read {} (.sequence label items) with
  | error fault => rfl
  | ok draft =>
    -- Nothing is lacking in the row, so the draft is complete in both.
    have lacks := refusal_complete taken
    have enough : ¬ items.length < (memberLayout (L := L)).required.length :=
      Nat.not_lt_of_le (Nat.le_of_succ_le full)
    rw [Layout.lackFaults, if_neg enough] at lacks
    obtain ⟨member, complete⟩ := (refusal_eq_none_iff _).mp lacks
    have alike := toOption_complete draft (.sequence label items) (.sequence label (items ++ more))
    change draft.complete _ = draft.complete _
    cases longer : draft.complete (.sequence label (items ++ more)) with
    | error fault => simp [complete, longer, Except.toOption] at alike
    | ok other => simpa [complete, longer, Except.toOption] using alike.symm

/-- A row that has all fields is read in one way, whatever else it has. -/
theorem Part.read_row_append (locate : L → Span) (part : Part) (label : L) {items : List (Tree L)}
    (full : part.fields.length ≤ items.length) (more : List (Tree L)) :
    part.read locate (.sequence label (items ++ more)) =
      part.read locate (.sequence label items) := by
  -- Each part reads as many items as it has fields and never looks at the rest.
  cases part with
  | manifest => exact (manifestRecord locate).read_row_append {} label full more
  | settings =>
    rw [Part.read, readSettings_ignored, readSettings_ignored]
    exact settingsRecord.read_row_append {} label full more
  | entry => exact (entryRecord locate).read_row_append {} label full more
  | member => exact readMember_row_append label full more

end Schema

end DeclGen
