import DeclGen.Proofs.Placed
import DeclGen.Proofs.Schema.Describable
import DeclGen.Proofs.Schema.ManifestLabels

/-! Places that reading data hands out: those of faults and of names are labels of the data. -/

namespace DeclGen

variable {L : Type} {right : L → Prop} {written : L → String → Prop} {locate : L → Span}

/-- The name of an entry, if it has one, is written at a right label and knows its place. -/
def Entry.NamePlaced (right : L → Prop) (written : L → String → Prop) (locate : L → Span)
    (entry : Entry) : Prop :=
  ∀ name, entry.name = some name →
    ∃ label, right label ∧ written label name.value ∧ name.span = locate label

namespace Schema

variable {α : Type} {value : Tree L}

/-- What a placed value has for a field is placed, too, except for a date or a time. -/
theorem placed_of_offers {name : String} {part : Tree L} (placed : value.Placed right written)
    (offered : Offers name part value) (foreign : name ≠ momentKey) :
    part.Placed right written := by
  -- Only rows and tables have parts to offer, besides the text of a moment under its own key.
  cases placed with
  | table here keys inside =>
    obtain ⟨pair, member, -, rfl⟩ := offered
    exact inside pair member
  | sequence here inside => exact inside part offered
  | moment here => exact absurd offered.1 foreign
  | null here => exact offered.elim
  | boolean here => exact offered.elim
  | integer here => exact offered.elim
  | float here => exact offered.elim
  | valueless here => exact offered.elim
  | text here there => exact offered.elim

/-- Every result of reading values in a row comes from an item. -/
theorem exists_of_mem_mapM {ι : Type} {read : ι → Except (Fault L) α} {items : List ι}
    {results : List α} (taken : items.mapM read = .ok results) {result : α}
    (member : result ∈ results) : ∃ item ∈ items, read item = .ok result := by
  induction items generalizing results with
  | nil =>
    cases taken
    simp at member
  | cons item items ih =>
    rw [List.mapM_cons] at taken
    cases here : read item with
    | error fault => simp [here, Bind.bind, Except.bind] at taken
    | ok first =>
      cases later : items.mapM read with
      | error fault => simp [here, later, Bind.bind, Except.bind] at taken
      | ok others =>
        simp only [here, later, Bind.bind, Except.bind, Pure.pure, Except.pure,
          Except.ok.injEq] at taken
        subst taken
        -- The result is that of the item in hand, or of one behind it.
        rcases List.mem_cons.mp member with rfl | behind
        · exact ⟨item, by simp, here⟩
        · obtain ⟨other, among, same⟩ := ih later behind
          exact ⟨other, by simp [among], same⟩

/-- What is read from every item of a placed row is read from something placed. -/
theorem exists_of_readEach {read : Tree L → Except (Fault L) α} {results : List α}
    (placed : value.Placed right written) (taken : readEach read value = .ok results) {result : α}
    (member : result ∈ results) : ∃ item, item.Placed right written ∧ read item = .ok result := by
  -- Only a row is read item by item, so the value is one.
  cases placed with
  | sequence here inside =>
    obtain ⟨item, among, same⟩ := exists_of_mem_mapM taken member
    exact ⟨item, inside item among, same⟩
  | null here => simp [readEach, mismatch] at taken
  | boolean here => simp [readEach, mismatch] at taken
  | integer here => simp [readEach, mismatch] at taken
  | float here => simp [readEach, mismatch] at taken
  | valueless here => simp [readEach, mismatch] at taken
  | text here there => simp [readEach, mismatch] at taken
  | moment here => simp [readEach, mismatch] at taken
  | table here keys inside => simp [readEach, mismatch] at taken

/-- A text that is read with its place is written there. -/
theorem placed_of_readLocated {name : Located String} (placed : value.Placed right written)
    (taken : readLocated locate value = .ok name) :
    ∃ label, right label ∧ written label name.value ∧ name.span = locate label := by
  obtain ⟨text, given, rfl⟩ := eq_ok_of_bind_pure taken
  -- Only a text is taken for a name.
  cases placed with
  | @text label value here there =>
    cases given
    exact ⟨label, here, there, rfl⟩
  | null here => simp [readText, mismatch] at given
  | boolean here => simp [readText, mismatch] at given
  | integer here => simp [readText, mismatch] at given
  | float here => simp [readText, mismatch] at given
  | valueless here => simp [readText, mismatch] at given
  | moment here => simp [readText, mismatch] at given
  | sequence here inside => simp [readText, mismatch] at given
  | table here keys inside => simp [readText, mismatch] at given

/-- The name of an entry that is read is written at its place. -/
theorem namePlaced_of_readEntry {entry : Entry} (placed : value.Placed right written)
    (taken : readEntry locate value = .ok entry) : entry.NamePlaced right written locate := by
  refine Record.read_keeps (fun field known label part record next offered put kept => ?_) taken
    (fun name absent => by simp at absent)
  simp only [entryRecord, List.mem_cons, List.not_mem_nil, or_false] at known
  rcases known with rfl | rfl | rfl | rfl | rfl | rfl | rfl | rfl | rfl | rfl
  case inr.inl =>
    obtain ⟨located, given, rfl⟩ := eq_ok_of_bind_pure put
    have part := placed_of_offers placed offered (by simp [momentKey])
    rintro _ ⟨⟩
    exact placed_of_readLocated part given
  -- No other field touches the name.
  all_goals
    obtain ⟨_, -, rfl⟩ := eq_ok_of_bind_pure put
    exact kept

/-- The names of a manifest that is read are written at their places. -/
theorem namePlaced_of_readManifest {manifest : Manifest} (placed : value.Placed right written)
    (taken : readManifest locate value = .ok manifest) :
    ∀ entry ∈ manifest.entries, entry.NamePlaced right written locate := by
  -- The settings hold no name, and the entries are read from the parts of a row.
  have keeps : ∀ field ∈ (manifestRecord locate).fields, ∀ label part record next,
      Offers field.name part value → field.put label part record = .ok next →
        (∀ entry ∈ record.entries, entry.NamePlaced right written locate) →
          ∀ entry ∈ next.entries, entry.NamePlaced right written locate := by
    intro field known label part record next offered put kept
    simp only [manifestRecord, List.mem_cons, List.not_mem_nil, or_false] at known
    rcases known with rfl | rfl
    · obtain ⟨settings, -, rfl⟩ := eq_ok_of_bind_pure put
      exact kept
    · obtain ⟨entries, given, rfl⟩ := eq_ok_of_bind_pure put
      intro entry member
      have part := placed_of_offers placed offered (by simp [momentKey])
      obtain ⟨item, inside, read⟩ := exists_of_readEach part given member
      exact namePlaced_of_readEntry inside read
  exact Record.read_keeps keeps taken (by simp)

/-- Whatever data is refused for, it is refused at one of its labels. -/
theorem right_of_readManifest {fault : Fault L} (placed : value.Placed right written)
    (refused : readManifest locate value = .error fault) : right fault.label := by
  -- The data is read like one that can have no other labels, so its faults have none either.
  obtain ⟨inner, rfl⟩ := placed.exists_map
  have narrow := readManifest_map Subtype.val (fun label => locate label.val) inner
  have wide := readManifest_map id locate (inner.map Subtype.val)
  rw [Tree.map_map, Function.id_comp, narrow, refused] at wide
  cases found : readManifest (fun label => locate label.val) inner with
  | ok manifest => simp [found, carry] at wide
  | error other =>
    simp only [found, carry, Except.error.injEq] at wide
    have same : other.label.val = fault.label := congrArg Fault.label wide
    exact same ▸ other.label.property

end Schema

end DeclGen
