import DeclGen.Manifest.Census
import DeclGen.Proofs.Manifest.Conversion
import DeclGen.Proofs.Manifest.Validation
import DeclGen.Proofs.Text.ClosedLines
import Mathlib.Data.String.Basic

/-!
The declarations of a manifest by kind: each is counted once, under the heading of its kind.

A table of names and their numbers is a list of names, asked for how often each of them occurs.
Counting one declaration more into such a table gives the table of one occurrence more, so that in
the end every heading has its number.
-/

namespace DeclGen

namespace Census

/-- All headings, in the order of the alphabet. -/
def headings : List String := ["enum", "plain", "scalar", "union", "untyped"]

/-- The names of a list that occur, each with how often it does. -/
def tabulate (names found : List String) : List (String × Nat) :=
  (names.map fun name => (name, found.count name)).filter (0 < ·.2)

/-- The number that a table has for a name, which is zero for a name that is not listed. -/
def amount (name : String) (rows : List (String × Nat)) : Nat :=
  (rows.lookup name).getD 0

/-- Kinds that differ are counted under headings that differ. -/
theorem heading_injective : Function.Injective heading := by
  intro kind other same
  rcases kind with _ | _ | _ | _ | _ <;> rcases other with _ | _ | _ | _ | _ <;>
    simp_all [heading, Kind.name]

/-- Every kind has one of the headings, and so has the lack of one. -/
theorem heading_mem_headings (kind : Option Kind) : heading kind ∈ headings := by
  rcases kind with _ | _ | _ | _ | _ <;> decide

/-- The headings are in the order of the alphabet. -/
theorem pairwise_headings : headings.Pairwise (· < ·) := by
  decide

section Tables

variable {names found : List String} {name : String}

/-- A table has a row for each name that is asked for and occurs, with how often it does. -/
theorem mem_tabulate_iff (row : String × Nat) :
    row ∈ tabulate names found ↔ row.1 ∈ names ∧ 0 < row.2 ∧ row.2 = found.count row.1 := by
  obtain ⟨name, total⟩ := row
  simp only [tabulate, List.mem_filter, List.mem_map, Prod.mk.injEq, decide_eq_true_eq]
  constructor
  · -- A row of the table stands under a heading that was listed, with the amount counted for it.
    rintro ⟨⟨_, listed, rfl, rfl⟩, positive⟩
    exact ⟨listed, positive, rfl⟩
  · rintro ⟨listed, positive, counted⟩
    exact ⟨⟨name, listed, rfl, counted.symm⟩, positive⟩

/-- A table lists the names that occur, in the order they are asked for. -/
theorem map_fst_tabulate (names found : List String) :
    (tabulate names found).map Prod.fst = names.filter (· ∈ found) := by
  simp [tabulate, List.filter_map, Function.comp_def, List.count_pos_iff]

/-- A name that occurs has a row of its own. -/
theorem tabulate_cons_of_mem (occurs : name ∈ found) :
    tabulate (name :: names) found = (name, found.count name) :: tabulate names found := by
  simp [tabulate, List.count_pos_iff.mpr occurs]

/-- A name that does not occur has no row. -/
theorem tabulate_cons_of_not_mem (absent : name ∉ found) :
    tabulate (name :: names) found = tabulate names found := by
  simp [tabulate, List.count_eq_zero.mpr absent]

/-- A name that is not asked for changes no number. -/
theorem tabulate_concat_of_not_mem (unasked : name ∉ names) :
    tabulate names (found ++ [name]) = tabulate names found := by
  -- Only the number of the name itself grows.
  have same : ∀ other ∈ names, (found ++ [name]).count other = found.count other := by
    intro other listed
    have differ : name ≠ other := fun equal => unasked (equal ▸ listed)
    simp [differ]
  simp only [tabulate]
  rw [List.map_congr_left fun other listed => by rw [same other listed]]

/-- A name in front of all others is entered in front of them. -/
theorem enter_of_lt {rows : List (String × Nat)} (first : ∀ row ∈ rows, name < row.1) :
    enter name rows = (name, 1) :: rows := by
  cases rows with
  | nil => rfl
  | cons row rows =>
    have before : name < row.1 := first row (by simp)
    rw [enter, if_neg (ne_of_lt before), if_pos before]

/-- Entering a name makes the table of one more occurrence, if the names are asked for in order. -/
theorem enter_tabulate (ordered : names.Pairwise (· < ·)) (asked : name ∈ names) :
    enter name (tabulate names found) = tabulate names (found ++ [name]) := by
  -- Names that do not occur have no row, so the induction is on the names and not on the rows.
  induction names with
  | nil => cases asked
  | cons next rest ih =>
    have later : ∀ other ∈ rest, next < other := (List.pairwise_cons.mp ordered).1
    by_cases same : name = next
    · -- The row is the first one, and the rest of the table does not tell the difference.
      subst same
      have unasked : name ∉ rest := fun listed => lt_irrefl name (later name listed)
      have behind : ∀ row ∈ tabulate rest found, name < row.1 := fun row member =>
        later row.1 ((mem_tabulate_iff row).mp member).1
      have entered : name ∈ found ++ [name] := by simp
      rw [tabulate_cons_of_mem entered, tabulate_concat_of_not_mem unasked]
      by_cases occurs : name ∈ found
      · simp [tabulate_cons_of_mem occurs, enter]
      · simp [tabulate_cons_of_not_mem occurs, enter_of_lt behind, List.count_eq_zero.mpr occurs]
    · -- The row is further down, below a first one that keeps its number if there is one.
      have listed : name ∈ rest := by simpa [same] using asked
      have after : ¬ name < next := lt_asymm (later name listed)
      have step := ih (List.pairwise_cons.mp ordered).2 listed
      have kept : (found ++ [name]).count next = found.count next := by simp [same]
      by_cases occurs : next ∈ found
      · rw [tabulate_cons_of_mem occurs, tabulate_cons_of_mem (by simp [occurs]), kept, ← step,
          enter, if_neg same, if_neg after]
      · have absent : next ∉ found ++ [name] := by simp [occurs, Ne.symm same]
        rw [tabulate_cons_of_not_mem occurs, tabulate_cons_of_not_mem absent, step]

/-- Every entry adds one to the numbers of a table. -/
theorem sum_enter (name : String) (rows : List (String × Nat)) :
    ((enter name rows).map Prod.snd).sum = (rows.map Prod.snd).sum + 1 := by
  -- One row gains one, be it a row that is there, a new one, or one further down.
  induction rows with
  | nil => rfl
  | cons row rows ih =>
    unfold enter
    split
    · simp only [List.map_cons, List.sum_cons]
      omega
    · split
      · simp only [List.map_cons, List.sum_cons]
        omega
      · simp only [List.map_cons, List.sum_cons, ih]
        omega

/-- The number of a name is that of its first row. -/
theorem amount_cons_self (name : String) (total : Nat) (rows : List (String × Nat)) :
    amount name ((name, total) :: rows) = total := by
  simp [amount]

/-- A row of another name is passed over. -/
theorem amount_cons_of_ne {next : String} (other : name ≠ next) (total : Nat)
    (rows : List (String × Nat)) : amount name ((next, total) :: rows) = amount name rows := by
  have passed : (name == next) = false := by simpa using other
  simp only [amount, List.lookup_cons, passed]

/-- A table has the number of each name that it is asked for, and none of any other. -/
theorem amount_tabulate (name : String) (names found : List String) :
    amount name (tabulate names found) = if name ∈ names then found.count name else 0 := by
  -- The first row of a name has its number, and all rows of other names are passed over.
  induction names with
  | nil => rfl
  | cons next rest ih =>
    by_cases occurs : next ∈ found
    · rw [tabulate_cons_of_mem occurs]
      by_cases same : name = next
      · subst same
        rw [amount_cons_self, if_pos (by simp)]
      · rw [amount_cons_of_ne same, ih]
        simp [same]
    · -- A name that does not occur has no row, and its number is zero as well.
      rw [tabulate_cons_of_not_mem occurs, ih]
      by_cases same : name = next
      · simp [same, List.count_eq_zero.mpr occurs]
      · simp [same]

end Tables

section Declarations

variable (declarations : List Declaration)

/-- The headings that declarations are counted under, one for each of them. -/
def found : List String :=
  declarations.map (heading ·.kind)

/-- A heading is found as often as there are declarations of its kind. -/
theorem count_found (kind : Option Kind) :
    (found declarations).count (heading kind) = declarations.countP (·.kind = kind) := by
  simp only [found, List.count, List.countP_map, Function.comp_def]
  refine List.countP_congr fun declaration _ => ?_
  simp [heading_injective.eq_iff]

/-- Counting one after the other goes on from any table of what was found before. -/
theorem foldl_enter_tabulate (before : List String) :
    declarations.foldl (fun rows declaration => enter (heading declaration.kind) rows)
        (tabulate headings before) =
      tabulate headings (before ++ found declarations) := by
  -- The table is always that of what was found so far, to which each step adds one heading.
  induction declarations generalizing before with
  | nil => simp [found]
  | cons first rest ih =>
    rw [List.foldl_cons, enter_tabulate pairwise_headings (heading_mem_headings first.kind), ih]
    simp [found]

/-- Counting one after the other gives every heading that occurs with its number. -/
theorem count_eq_tabulate : count declarations = tabulate headings (found declarations) := by
  have empty : tabulate headings [] = [] := rfl
  rw [count, ← empty, foldl_enter_tabulate, List.nil_append]

/-- Counting adds to the numbers of a table as many as there are declarations. -/
theorem sum_foldl_enter (rows : List (String × Nat)) :
    ((declarations.foldl (fun rows declaration => enter (heading declaration.kind) rows)
        rows).map Prod.snd).sum =
      (rows.map Prod.snd).sum + declarations.length := by
  -- Counting starts from any table, as it does in the middle of a run.
  induction declarations generalizing rows with
  | nil => rfl
  | cons first rest ih =>
    rw [List.foldl_cons, ih, sum_enter, List.length_cons]
    omega

/-- Every declaration is counted, and none is counted twice. -/
theorem sum_count : ((count declarations).map Prod.snd).sum = declarations.length := by
  rw [count, sum_foldl_enter]
  simp

/-- The headings are listed in the order of the alphabet, each of them once. -/
theorem pairwise_count : ((count declarations).map Prod.fst).Pairwise (· < ·) := by
  rw [count_eq_tabulate, map_fst_tabulate]
  exact pairwise_headings.filter _

/-- The rows are those of the kinds that occur, each with the number of its declarations. -/
theorem mem_count_iff (row : String × Nat) :
    row ∈ count declarations ↔
      ∃ kind, row.1 = heading kind ∧ 0 < row.2 ∧ row.2 = declarations.countP (·.kind = kind) := by
  rw [count_eq_tabulate, mem_tabulate_iff]
  constructor
  · rintro ⟨-, positive, counted⟩
    -- A name that is counted is the heading of a declaration.
    have occurs : row.1 ∈ found declarations := by
      rw [← List.count_pos_iff, ← counted]
      exact positive
    obtain ⟨declaration, -, named⟩ := List.mem_map.mp occurs
    rw [← named, count_found] at counted
    exact ⟨declaration.kind, named.symm, positive, counted⟩
  · rintro ⟨kind, named, positive, counted⟩
    rw [named, count_found]
    exact ⟨heading_mem_headings kind, positive, counted⟩

/-- A kind is listed where a declaration has it. -/
theorem heading_mem_count_iff (kind : Option Kind) :
    heading kind ∈ (count declarations).map Prod.fst ↔
      ∃ declaration ∈ declarations, declaration.kind = kind := by
  rw [count_eq_tabulate, map_fst_tabulate, List.mem_filter]
  simp [heading_mem_headings, found, heading_injective.eq_iff]

/-- The number of a heading is how often it was found, be it listed or not. -/
theorem amount_count (name : String) :
    amount name (count declarations) = (found declarations).count name := by
  rw [count_eq_tabulate, amount_tabulate]
  split
  · rfl
  · -- Nothing is found under a name that is no heading.
    rename_i unlisted
    refine (List.count_eq_zero.mpr fun occurs => unlisted ?_).symm
    obtain ⟨declaration, -, rfl⟩ := List.mem_map.mp occurs
    exact heading_mem_headings declaration.kind

/-- One heading is found for each declaration. -/
theorem length_found : (found declarations).length = declarations.length := by
  simp [found]

variable {declarations} {others : List Declaration}

/-- The order in which headings are found does not matter for their numbers. -/
theorem count_eq_of_perm (reordered : (found others).Perm (found declarations)) :
    count others = count declarations := by
  simp only [count_eq_tabulate, tabulate, reordered.count_eq]

/-- The order in which headings are found does not matter for the summary either. -/
theorem summary_eq_of_perm (reordered : (found others).Perm (found declarations)) :
    summary others = summary declarations := by
  have total : others.length = declarations.length := by
    rw [← length_found others, reordered.length_eq, length_found]
  rw [summary, summary, total, count_eq_of_perm reordered]

/-- What is found in two parts is counted in both. -/
theorem amount_count_of_append {both : List Declaration}
    (joined : found both = found declarations ++ found others) (name : String) :
    amount name (count both) = amount name (count declarations) + amount name (count others) := by
  rw [amount_count, amount_count, amount_count, joined, List.count_append]

end Declarations

section Lines

/-- The text of the total, in the singular for one declaration. -/
def totalText (total : Nat) : String :=
  "  " ++ toString total ++ if total = 1 then " declaration" else " declarations"

/-- The text of a heading and its number. -/
def headingText (row : String × Nat) : String :=
  "    " ++ row.1 ++ ": " ++ toString row.2

/-- The line of the total is its text and a newline. -/
theorem totalLine_eq (total : Nat) : totalLine total = totalText total ++ "\n" := by
  have ending : (if total = 1 then " declaration" else " declarations") =
      " declaration" ++ if total = 1 then "" else "s" := by
    split <;> rfl
  rw [totalLine, totalText, ending]
  simp only [String.append_assoc]

/-- The lines of the headings are their texts, each with a newline. -/
theorem join_headingLine (rows : List (String × Nat)) :
    String.join (rows.map headingLine) = Text.writeLines (rows.map headingText) := by
  induction rows with
  | nil => rfl
  | cons row rows ih =>
    rw [List.map_cons, String.join_cons, ih]
    rfl

/-- A number is written on one line. -/
theorem newline_not_mem_toDigits (number : Nat) : '\n' ∉ Nat.toDigits 10 number := fun found =>
  absurd (Nat.isDigit_of_mem_toDigits (by decide) (by decide) found) (by decide)

/-- The total is on one line. -/
theorem newline_not_mem_totalText (total : Nat) : '\n' ∉ (totalText total).toList := by
  unfold totalText
  split <;> simp [newline_not_mem_toDigits]

/-- A heading that is counted is on one line with its number. -/
theorem newline_not_mem_headingText {row : String × Nat} {declarations : List Declaration}
    (listed : row ∈ count declarations) : '\n' ∉ (headingText row).toList := by
  have single : ∀ name ∈ headings, '\n' ∉ name.toList := by decide
  rw [count_eq_tabulate, mem_tabulate_iff] at listed
  simp [headingText, newline_not_mem_toDigits, single row.1 listed.1]

/-- The lines of a summary are the total and the headings that occur. -/
theorem lines_summary (declarations : List Declaration) :
    Text.lines (summary declarations) =
      totalText declarations.length :: (count declarations).map headingText ++ [""] := by
  have written : summary declarations =
      Text.writeLines (totalText declarations.length :: (count declarations).map headingText) ++
        "" := by
    -- Every line has its newline, so nothing stands behind the last one.
    rw [String.append_empty, summary, totalLine_eq, join_headingLine, Text.writeLines]
  rw [written, Text.lines_writeLines_append]
  · rfl
  · intro line member
    obtain rfl | member := List.mem_cons.mp member
    · exact newline_not_mem_totalText _
    · obtain ⟨row, listed, rfl⟩ := List.mem_map.mp member
      exact newline_not_mem_headingText listed

end Lines

end Census

namespace Entry

/-- An entry is counted under the name of its kind, if what is written there names one. -/
theorem heading_knownKind (entry : Entry) :
    Census.heading entry.knownKind =
      match entry.kind with
      | none => "untyped"
      | some kind =>
        if kind = "class" then "plain"
        else if kind ∈ ["plain", "enum", "union", "scalar"] then kind
        else "untyped" := by
  cases known : entry.knownKind with
  | some kind =>
    obtain ⟨text, written, parsed⟩ := (knownKind_eq_some_iff entry kind).mp known
    rw [written]
    obtain rfl | ⟨rfl, rfl⟩ := (Kind.parse_eq_ok_iff text kind).mp parsed
    · cases kind <;> rfl
    · rfl
  | none =>
    cases written : entry.kind with
    | none => rfl
    | some text =>
      -- A text that named a kind would be one that is known.
      have strange : text ∉ Kind.spellings := by
        rw [← Kind.exists_parse_eq_ok_iff]
        rintro ⟨kind, parsed⟩
        have some := (knownKind_eq_some_iff entry kind).mpr ⟨text, written, parsed⟩
        rw [known] at some
        cases some
      simp only [Kind.spellings, List.mem_cons, List.not_mem_nil, or_false, not_or] at strange
      simp [Census.heading, strange]

end Entry

namespace Manifest

/-- The kind of an entry's record does not depend on anything else in the manifest. -/
theorem found_toDeclarations (manifest : Manifest) :
    Census.found manifest.toDeclarations.value =
      manifest.entries.map fun entry => Census.heading entry.knownKind := by
  simp [Census.found, toDeclarations, Logged.each, Entry.toDeclaration]

end Manifest

end DeclGen
