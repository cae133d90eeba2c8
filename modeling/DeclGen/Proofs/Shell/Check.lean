import DeclGen.Proofs.Manifest.Census
import DeclGen.Proofs.Shell.Run

/-!
What a check prints: how many declarations a manifest has, and how many there are of each kind.

The numbers depend on the kinds of the entries alone, each of which is found once.
-/

namespace DeclGen

namespace Manifest

variable (manifest : Manifest)

/-- Every entry makes one declaration. -/
theorem length_toDeclarations :
    manifest.toDeclarations.value.length = manifest.entries.length := by
  simp [toDeclarations, Logged.each]

/-- The declarations of a kind are as many as the entries that are converted to one of it. -/
theorem countP_toDeclarations (kind : Option Kind) :
    manifest.toDeclarations.value.countP (·.kind = kind) =
      manifest.entries.countP fun entry =>
        (entry.toDeclaration manifest.settings).value.kind = kind := by
  simp only [toDeclarations, Logged.each, List.countP_map, Function.comp_def]

/-- There is a declaration of a kind where an entry is converted to one. -/
theorem exists_mem_toDeclarations_iff (kind : Option Kind) :
    (∃ declaration ∈ manifest.toDeclarations.value, declaration.kind = kind) ↔
      ∃ entry ∈ manifest.entries, (entry.toDeclaration manifest.settings).value.kind = kind := by
  simp [toDeclarations, Logged.each]

/-- The lines of a summary are the total and, for each kind that entries have, their number. -/
theorem lines_summary :
    Text.lines (Census.summary manifest.toDeclarations.value) =
      ("  " ++ toString manifest.entries.length ++
          if manifest.entries.length = 1 then " declaration" else " declarations") ::
        (Census.count manifest.toDeclarations.value).map
          (fun row => "    " ++ row.1 ++ ": " ++ toString row.2) ++ [""] := by
  rw [Census.lines_summary, length_toDeclarations]
  rfl

variable {manifest} {other : Manifest}

/-- The headings that are found in reordered entries are found in another order. -/
theorem perm_found (reordered : other.entries.Perm manifest.entries) :
    (Census.found other.toDeclarations.value).Perm
      (Census.found manifest.toDeclarations.value) := by
  rw [found_toDeclarations, found_toDeclarations]
  exact reordered.map _

/-- The headings of joined entries are those of the parts, one behind the other. -/
theorem found_append {both : Manifest} (joined : both.entries = manifest.entries ++ other.entries) :
    Census.found both.toDeclarations.value =
      Census.found manifest.toDeclarations.value ++ Census.found other.toDeclarations.value := by
  rw [found_toDeclarations, found_toDeclarations, found_toDeclarations, joined, List.map_append]

end Manifest

/--
A check counts every declaration of a manifest once, under the heading of its kind.

The headings stand in the order of the alphabet and are those of the kinds that occur, though they
are counted one declaration after the other; neither the order of the entries nor the settings
matter.
-/
theorem check_counts_declarations_by_kind :
    (∀ (surroundings : Surroundings) (arguments : List String) (config : String)
        (manifest : Manifest),
      surroundings.Starts arguments (.check config) → surroundings.files.Holds config manifest →
        EndsWith (run surroundings arguments) 0
          ("✓ " ++ config ++ " is valid\n\n" ++ Census.summary manifest.toDeclarations.value)
          surroundings.files) ∧
      (∀ manifest : Manifest,
        let declarations := manifest.toDeclarations.value
        let rows := Census.count declarations
        Text.lines (Census.summary declarations) =
            ("  " ++ toString manifest.entries.length ++
                if manifest.entries.length = 1 then " declaration" else " declarations") ::
              rows.map (fun row => "    " ++ row.1 ++ ": " ++ toString row.2) ++ [""] ∧
          rows = Census.tabulate Census.headings (Census.found declarations) ∧
          (rows.map Prod.fst).Pairwise (· < ·) ∧
          (∀ row, row ∈ rows ↔ ∃ kind, row.1 = Census.heading kind ∧ 0 < row.2 ∧
            row.2 = manifest.entries.countP fun entry =>
              (entry.toDeclaration manifest.settings).value.kind = kind) ∧
          (∀ kind, Census.heading kind ∈ rows.map Prod.fst ↔
            ∃ entry ∈ manifest.entries,
              (entry.toDeclaration manifest.settings).value.kind = kind) ∧
          (rows.map Prod.snd).sum = manifest.entries.length) ∧
      (∀ (settings : Settings) (entry : Entry),
        Census.heading (entry.toDeclaration settings).value.kind =
          match entry.kind with
          | none => "untyped"
          | some kind =>
            if kind = "class" then "plain"
            else if kind ∈ ["plain", "enum", "union", "scalar"] then kind
            else "untyped") ∧
      (∀ manifest other : Manifest, other.entries.Perm manifest.entries →
        Census.summary other.toDeclarations.value =
          Census.summary manifest.toDeclarations.value) ∧
      ∀ manifest other both : Manifest, both.entries = manifest.entries ++ other.entries →
        ∀ name, Census.amount name (Census.count both.toDeclarations.value) =
          Census.amount name (Census.count manifest.toDeclarations.value) +
            Census.amount name (Census.count other.toDeclarations.value) := by
  refine ⟨fun _ _ _ _ checks holds => checks.ends_summary holds, fun manifest => ?_,
    fun settings entry => ?_,
    fun _ _ reordered => Census.summary_eq_of_perm (Manifest.perm_found reordered),
    fun _ _ _ joined => Census.amount_count_of_append (Manifest.found_append joined)⟩
  · -- What is counted are the declarations, of which every entry makes one.
    have rows : ∀ row, row ∈ Census.count manifest.toDeclarations.value ↔ _ :=
      Census.mem_count_iff manifest.toDeclarations.value
    have listed : ∀ kind, Census.heading kind ∈
        (Census.count manifest.toDeclarations.value).map Prod.fst ↔ _ :=
      Census.heading_mem_count_iff manifest.toDeclarations.value
    have total := Census.sum_count manifest.toDeclarations.value
    simp only [Manifest.countP_toDeclarations] at rows
    simp only [Manifest.exists_mem_toDeclarations_iff] at listed
    rw [Manifest.length_toDeclarations] at total
    exact ⟨manifest.lines_summary, Census.count_eq_tabulate _, Census.pairwise_count _, rows,
      listed, total⟩
  · -- The kind of a record is that of its entry, whatever the settings are.
    have converted : (entry.toDeclaration settings).value.kind = entry.knownKind :=
      Entry.record_kind settings entry
    rw [converted]
    exact entry.heading_knownKind

/-- Two of four kinds are the plain one by two names, one is not known and one is not written. -/
theorem check_counts_declarations_by_kind_of_four :
    ∃ surroundings manifest,
      surroundings.files.nodes = [(["m"], .file ("[[declarations]]\nkind='plain'\n" ++
        "[[declarations]]\nkind='Enum'\n[[declarations]]\nkind='class'\n" ++
        "[[declarations]]").toUTF8)] ∧
      surroundings.Starts ["check", "-c", "m"] (.check "m") ∧
      surroundings.files.Holds "m" manifest ∧
      (run surroundings ["check", "-c", "m"]).1.stdout =
        "✓ m is valid\n\n  4 declarations\n    plain: 2\n    untyped: 2\n" ∧
      ∃ reordered joined : Manifest,
        reordered.entries = manifest.entries.reverse ∧
        Census.summary reordered.toDeclarations.value =
          Census.summary manifest.toDeclarations.value ∧
        joined.entries = manifest.entries ++ reordered.entries ∧
        Census.amount "plain" (Census.count joined.toDeclarations.value) = 2 + 2 := by
  have isPath : IsValue "m" := ⟨by decide, by decide⟩
  generalize text : "[[declarations]]\nkind='plain'\n" ++
    "[[declarations]]\nkind='Enum'\n[[declarations]]\nkind='class'\n" ++
    "[[declarations]]" = source
  let surroundings : Surroundings := { files := ⟨[(["m"], .file source.toUTF8)]⟩ }
  obtain ⟨printed, -, -, reordering, joining⟩ := check_counts_declarations_by_kind
  have checks : surroundings.Starts ["check", "-c", "m"] (.check "m") :=
    Surroundings.starts_of_read rfl (read_check isPath)
  have content : surroundings.files.read "m" = .ok source := FileTree.read_eq_of_file rfl rfl
  -- The kernel reads the file once, for its entries and for the summary that is printed.
  obtain ⟨manifest, parsed, seen⟩ : ∃ manifest, (Manifest.parse source "m").value = .ok manifest ∧
      (manifest.entries, Census.summary manifest.toDeclarations.value) =
        ([{ kind := some "plain" }, { kind := some "Enum" }, { kind := some "class" }, {}],
          "  4 declarations\n    plain: 2\n    untyped: 2\n") := by
    subst text
    exact Manifest.exists_of_seen (by decide +kernel)
  simp only [Prod.mk.injEq] at seen
  have holds : surroundings.files.Holds "m" manifest := ⟨source, content, parsed⟩
  let reordered : Manifest := { entries := manifest.entries.reverse }
  let joined : Manifest := { entries := manifest.entries ++ reordered.entries }
  have same := reordering manifest reordered manifest.entries.reverse_perm
  refine ⟨surroundings, manifest, rfl, checks, holds, ?_, reordered, joined, rfl, same, rfl, ?_⟩
  · rw [(printed surroundings _ "m" manifest checks holds).2.1, seen.2]
    rfl
  · have counted : Census.amount "plain" (Census.count manifest.toDeclarations.value) = 2 := by
      rw [Census.amount_count, Manifest.found_toDeclarations, seen.1]
      rfl
    -- Reversing is a permutation, so the other manifest has the same amounts.
    have back : (Census.found reordered.toDeclarations.value).Perm
        (Census.found manifest.toDeclarations.value) :=
      Manifest.perm_found manifest.entries.reverse_perm
    rw [joining manifest reordered joined rfl "plain", Census.count_eq_of_perm back, counted]

end DeclGen
