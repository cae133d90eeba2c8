import DeclGen.Proofs.Toml.Value

/-! Tables that were written are read back key by key, and with them all values. -/

namespace DeclGen.Toml

/-- A key is read back up to the sign behind it, and is a path of its own. -/
theorem readKeyPath_writeText (name : String) (rest : List Char) :
    ∃ place, readKeyPath (writeText name ++ '=' :: rest) =
      some (⟨[], ⟨name, place⟩⟩, '=' :: rest) := by
  -- The quote in front decides that the key is a literal, and the sign behind that no dot follows.
  have line := readLineLiteral_writeText name ('=' :: rest)
  refine ⟨.between (writeText name ++ '=' :: rest) ('=' :: rest), ?_⟩
  rw [writeText, List.cons_append] at line ⊢
  have key : readKey ('"' :: (name.toList.flatMap writeChar ++ ['"'] ++ '=' :: rest)) =
      some (⟨name, .between ('"' :: (name.toList.flatMap writeChar ++ ['"'] ++ '=' :: rest))
        ('=' :: rest)⟩, '=' :: rest) := by
    simp only [readKey, decide_true, Bool.true_or, if_true, line]
    rfl
  rw [readKeyPath, readKeys, key]
  simp only [Bind.bind, Option.bind_some, skipBlanks_of_isSolid (by decide : isSolid '=' = true)]
  rfl

/-- A pair is read back, whatever is skipped around its sign. -/
theorem readPair_writeText {skip : List Char → List Char}
    (keeps : ∀ {c}, isSolid c = true → ∀ rest, skip (c :: rest) = c :: rest)
    {readItem : Reader Draft} (name : String) {c : Char} {tail next : List Char} {draft : Draft}
    (solid : isSolid c = true) (here : readItem (c :: tail) = some (draft, next)) :
    ∃ place, readPair skip readItem (writeText name ++ '=' :: c :: tail) =
      some (((⟨[], ⟨name, place⟩⟩ : KeyPath), draft), next) := by
  obtain ⟨place, key⟩ := readKeyPath_writeText name (c :: tail)
  refine ⟨place, ?_⟩
  simp only [readPair, key, Bind.bind, Option.bind_some,
    keeps (by decide : isSolid '=' = true), keeps solid, here, Pure.pure]

/-- A brace that closes ends the pairs. -/
theorem readPairs_closing (readItem : Reader Draft) (rest : List Char) :
    readPairs readItem ('}' :: rest) = some ([], rest) := by
  rw [readPairs, skipTrivia_of_isSolid (by decide)]
  rfl

/-- A pair with a comma behind it is one pair more than what follows the comma. -/
theorem readPairs_comma {readItem : Reader Draft} {name : String} {tail next : List Char}
    {pair : KeyPath × Draft}
    (here : readPair skipTrivia readItem (writeText name ++ tail) = some (pair, ',' :: next))
    (shorter : next.length < tail.length) :
    readPairs readItem (writeText name ++ tail) =
      (readPairs readItem next).map fun (pairs, rest) => (pair :: pairs, rest) := by
  -- What follows the comma is shorter than the text, which is what the reader recurses on.
  have whole : next.length < (writeText name ++ tail).length := by
    rw [List.length_append]
    omega
  rw [writeText, List.cons_append] at here whole ⊢
  rw [readPairs, skipTrivia_of_isSolid (by decide)]
  split
  · rename_i same
    simp at same
  · simp only [here, Bind.bind, Option.bind_some, skipTrivia_comma, if_pos whole]
    cases readPairs readItem next <;> rfl

/-- A field that is given by a key without dots. -/
def plainPair (field : Key Place × Draft) : KeyPath × Draft := (⟨[], field.1⟩, field.2)

/-- A field without its labels. -/
def eraseField {L : Type} : Key L × Tree L → Key Unit × Tree Unit := Tree.mapField fun _ => ()

/-- The pairs of an inline table are read back one after the other. -/
theorem readPairs_writeFields {depth : Nat} {readItem : Reader Draft}
    {fields : List (Key Unit × Tree Unit)} (writable : ∀ field ∈ fields, Writable depth field.2)
    (each : ∀ field ∈ fields, ReadsBack readItem field.2) (rest : List Char) :
    ∃ drafts : Fields,
      readPairs readItem (writeFields fields ++ '}' :: rest) =
          some (drafts.map plainPair, rest) ∧
        drafts.map eraseField = fields := by
  induction fields with
  | nil => exact ⟨[], readPairs_closing readItem rest, rfl⟩
  | cons field fields ih =>
    obtain ⟨drafts, later, erased⟩ := ih (fun other member => writable other (by simp [member]))
      (fun other member => each other (by simp [member]))
    obtain ⟨draft, here, same⟩ :=
      each field (by simp) ',' (writeFields fields ++ '}' :: rest) (by decide)
    obtain ⟨c, tail, start, solid, -⟩ := write_eq_cons (writable field (by simp))
    rw [start, List.cons_append] at here
    obtain ⟨place, pair⟩ := readPair_writeText skipTrivia_of_isSolid field.1.name solid here
    -- The label of the key is the only thing that is not known before reading.
    have first : eraseField (⟨field.1.name, place⟩, draft) = field := by
      rw [eraseField, Tree.mapField]
      exact Prod.ext rfl same
    refine ⟨(⟨field.1.name, place⟩, draft) :: drafts, ?_, by rw [List.map_cons, first, erased]⟩
    rw [writeFields, start, List.append_assoc, List.cons_append, List.cons_append, List.cons_append,
      List.append_assoc, List.cons_append]
    rw [readPairs_comma pair (by simp; omega), later]
    rfl

/-- A key that a table does not have is added last. -/
theorem alter_of_not_mem {name : String} {fields : Fields}
    (change : Option (Key Place × Draft) → Option (Key Place × Draft))
    (fresh : name ∉ fields.map (·.1.name)) :
    alter name change fields = (change none).map fun field => fields ++ [field] := by
  -- No field on the way has the name, so the change is made at the end.
  induction fields with
  | nil => rfl
  | cons field fields ih =>
    simp only [List.map_cons, List.mem_cons, not_or] at fresh
    rw [alter, if_neg (Ne.symm fresh.1), ih fresh.2, Option.map_map]
    rfl

/-- A plain key that a table does not have is added last. -/
theorem assign_plain {key : Key Place} {value : Draft} {fields : Fields}
    (fresh : key.name ∉ fields.map (·.1.name)) :
    assign ⟨[], key⟩ value .opened fields = some (fields ++ [(key, value)]) := by
  -- A path without parents goes into the table itself.
  rw [assign, descend, if_pos (by simp), alter_of_not_mem _ fresh]
  rfl

/-- Keys that differ are added one after the other, by any step that adds a key that is fresh. -/
theorem foldlM_plainPair {ρ ι : Type} (table : Fields → ρ) (item : Key Place × Draft → ι)
    {step : ρ → ι → Option ρ}
    (adds : ∀ fields field, field.1.name ∉ fields.map (·.1.name) →
      step (table fields) (item field) = some (table (fields ++ [field])))
    (earlier : Fields) {drafts : Fields} (distinct : DistinctKeys (earlier ++ drafts)) :
    (drafts.map item).foldlM step (table earlier) = some (table (earlier ++ drafts)) := by
  induction drafts generalizing earlier with
  | nil => simp
  | cons field drafts ih =>
    have apart := distinct
    rw [DistinctKeys, List.map_append, List.nodup_append] at apart
    -- The key is none of those in front of it, since all of them differ.
    have fresh : field.1.name ∉ earlier.map (·.1.name) := fun member =>
      apart.2.2 _ member _ (by simp) rfl
    rw [List.map_cons, List.foldlM_cons, adds earlier field fresh]
    rw [List.append_cons earlier field drafts] at distinct ⊢
    exact ih (earlier ++ [field]) distinct

/-- A table without its labels has the same names. -/
theorem distinctKeys_of_eraseField {L : Type} {fields : List (Key L × Tree L)}
    (distinct : DistinctKeys (fields.map eraseField)) : DistinctKeys fields := by
  rw [DistinctKeys, List.map_map] at distinct
  exact distinct

/-- The pairs of an inline table whose keys differ are its fields. -/
theorem collect_plainPair {drafts : Fields} (distinct : DistinctKeys drafts) :
    collect (drafts.map plainPair) = some drafts :=
  foldlM_plainPair id plainPair (fun _ _ fresh => assign_plain fresh) [] distinct

/-- Every value that can be written is read back. -/
theorem readsBack_of_writable (depth : Nat) (value : Tree Unit) (writable : Writable depth value) :
    ReadsBack (readValue depth) value := by
  -- What is put into an array or a table is less deep by one.
  induction depth generalizing value with
  | zero =>
    cases value with
    | text label value => exact readsBack_text 0 value
    | boolean label value => exact readsBack_boolean 0 value
    | integer label value => exact readsBack_integer 0 writable
    | null label => exact writable.elim
    | float label value => exact writable.elim
    | valueless label => exact writable.elim
    | moment label => exact writable.elim
    | sequence label items => exact writable.elim
    | table label fields => exact writable.elim
  | succ depth ih =>
    cases value with
    | text label value => exact readsBack_text _ value
    | boolean label value => exact readsBack_boolean _ value
    | integer label value => exact readsBack_integer _ writable
    | null label => exact writable.elim
    | float label value => exact writable.elim
    | valueless label => exact writable.elim
    | moment label => exact writable.elim
    | sequence label items =>
      intro separator rest ends
      obtain ⟨drafts, read, erased⟩ := readItems_writeItems writable
        (fun item member => ih item (writable item member)) (separator :: rest)
      -- The label spans from the first bracket to what stands behind the last one.
      refine ⟨.sequence (.between (write (.sequence label items) ++ separator :: rest)
        (separator :: rest)) drafts, ?_, ?_⟩
      · rw [write, List.cons_append, List.append_assoc, List.singleton_append]
        simp only [readValue, read]
        rfl
      · rw [← erased, Tree.erase, Tree.map, Tree.mapItems_eq_map]
        rfl
    | table label fields =>
      intro separator rest ends
      obtain ⟨drafts, read, erased⟩ := readPairs_writeFields writable.2
        (fun field member => ih field.2 (writable.2 field member)) (separator :: rest)
      -- Names that differ in the value differ in what is read of it.
      have distinct : DistinctKeys drafts := distinctKeys_of_eraseField (erased ▸ writable.1)
      refine ⟨.table (.between (write (.table label fields) ++ separator :: rest)
        (separator :: rest)) drafts, ?_, ?_⟩
      · rw [write, List.cons_append, List.append_assoc, List.singleton_append]
        simp only [readValue, read, Bind.bind, Option.bind_some, collect_plainPair distinct]
        rfl
      · rw [← erased, Tree.erase, Tree.map, Tree.mapFields_eq_map]
        rfl

end DeclGen.Toml
