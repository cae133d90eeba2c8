import DeclGen.Proofs.Manifest.Edit

/-!
A module is made of one segment for each entry, with an empty line between neighbours.

Every segment ends with a newline of its own, so the newline between two segments makes the empty
line. Nothing else of a module depends on more than one entry, so edits move whole segments.
-/

namespace DeclGen.Manifest

/-- The module of a list of entries under given settings, without a look at whether it is valid. -/
def moduleText (settings : Settings) (entries : List Entry) : String :=
  (render { settings, entries }).value

/-- The segment of an entry, which is its module if it is the only one. -/
def segment (settings : Settings) (entry : Entry) : String := moduleText settings [entry]

/-- What stands in a module in front of an entry, if these entries are in front of it. -/
def above (settings : Settings) (entries : List Entry) : String :=
  if entries = [] then "" else moduleText settings entries ++ "\n"

/-- What stands in a module behind an entry, if these entries are behind it. -/
def below (settings : Settings) (entries : List Entry) : String :=
  if entries = [] then "" else "\n" ++ moduleText settings entries

variable (settings : Settings)

/-- The segment of an entry is the text of its declaration. -/
theorem segment_eq (entry : Entry) :
    segment settings entry = (entry.toDeclaration settings).value.render := by
  simp [segment, moduleText, render, toDeclarations, Logged.map, Logged.each]

/-- A module joins its segments like lines. -/
theorem moduleText_eq (entries : List Entry) :
    moduleText settings entries = Text.joinLines (entries.map (segment settings)) := by
  have segments : segment settings = fun entry => (entry.toDeclaration settings).value.render :=
    funext (segment_eq settings)
  simp [moduleText, render, toDeclarations, Logged.map, Logged.each, segments, Function.comp_def]

/-- A manifest without entries has an empty module. -/
@[simp] theorem moduleText_nil : moduleText settings [] = "" := rfl

/-- Whatever an entry holds, its segment ends with a newline. -/
theorem exists_segment_eq (entry : Entry) : ∃ text, segment settings entry = text ++ "\n" := by
  rw [segment_eq, Declaration.render]
  exact ⟨_, rfl⟩

/-- Two modules that have entries stand in one with a newline between them. -/
theorem moduleText_append (xs ys : List Entry) :
    moduleText settings (xs ++ ys) =
      if ys = [] then moduleText settings xs
      else if xs = [] then moduleText settings ys
      else moduleText settings xs ++ "\n" ++ moduleText settings ys := by
  cases ys with
  | nil => simp
  | cons second ys =>
    cases xs with
    | nil => simp
    | cons first xs =>
      -- Two parts that hold something meet at one empty line.
      simp only [moduleText_eq, List.map_append, List.map_cons, reduceCtorEq, if_false,
        Text.joinLines_append]

/-- An entry stands between what its neighbours make of a module. -/
theorem moduleText_middle (xs : List Entry) (entry : Entry) (ys : List Entry) :
    moduleText settings (xs ++ entry :: ys) =
      above settings xs ++ segment settings entry ++ below settings ys := by
  -- Above and below the segment there is nothing, or other text behind an empty line.
  have behind : moduleText settings (entry :: ys) =
      segment settings entry ++ below settings ys := by
    rw [← List.singleton_append, moduleText_append, ← segment, below]
    by_cases last : ys = [] <;> simp [last, String.append_assoc]
  rw [moduleText_append, behind, above]
  by_cases first : xs = [] <;> simp [first, String.append_assoc]

/-- A module that has entries ends with a newline. -/
theorem exists_moduleText_eq (first : Entry) (rest : List Entry) :
    ∃ text, moduleText settings (first :: rest) = text ++ "\n" := by
  -- The last segment is at the end, whatever is in front of it.
  obtain ⟨front, last, split⟩ := List.eq_nil_or_concat (first :: rest) |>.resolve_left (by simp)
  obtain ⟨text, ends⟩ := exists_segment_eq settings last
  refine ⟨above settings front ++ text, ?_⟩
  rw [split, List.concat_eq_append, moduleText_middle, ends, below, if_pos rfl]
  simp [String.append_assoc]

/-- What is in front of an entry that is not the first ends with an empty line. -/
theorem exists_above_eq (first : Entry) (rest : List Entry) :
    ∃ text, above settings (first :: rest) = text ++ "\n\n" := by
  obtain ⟨text, ends⟩ := exists_moduleText_eq settings first rest
  refine ⟨text, ?_⟩
  rw [above, if_neg (List.cons_ne_nil first rest), ends, String.append_assoc]
  rfl

/-- What is in front of an entry that has another one in front of it. -/
theorem above_middle (xs : List Entry) (entry : Entry) (ys : List Entry) :
    above settings (xs ++ entry :: ys) =
      above settings xs ++ segment settings entry ++ "\n" ++ above settings ys := by
  rw [above, if_neg (by simp), moduleText_middle, below, above]
  by_cases last : ys = [] <;> simp [above, last, String.append_assoc]

/-- An entry that is removed was between two parts of a module. -/
theorem after_remove (xs : List Entry) (entry : Entry) (ys : List Entry) :
    Manifest.after { settings, entries := xs ++ entry :: ys } (.remove xs.length) =
      { settings, entries := xs ++ ys } := by
  simp [after, edit, withEntries, List.eraseIdx_append_of_length_le]

/-- An entry that is duplicated is copied to the end. -/
theorem after_duplicate (xs : List Entry) (entry : Entry) (ys : List Entry) :
    Manifest.after { settings, entries := xs ++ entry :: ys } (.duplicate xs.length) =
      { settings, entries := (xs ++ entry :: ys) ++ [entry] } := by
  simp [after, edit, withEntries]

/-- Two entries that are exchanged change their places. -/
theorem exchange_middle (xs : List Entry) (one : Entry) (ys : List Entry) (other : Entry)
    (zs : List Entry) :
    exchange (xs ++ one :: ys ++ other :: zs) xs.length (xs ++ one :: ys).length =
      xs ++ other :: ys ++ one :: zs := by
  have first : (xs ++ one :: ys ++ other :: zs)[xs.length]? = some one := by simp
  have second : (xs ++ one :: ys ++ other :: zs)[(xs ++ one :: ys).length]? = some other := by
    rw [List.getElem?_append_right (Nat.le_refl _)]
    simp
  have written : (xs ++ one :: ys ++ other :: zs).set xs.length other =
      xs ++ other :: ys ++ other :: zs := by simp
  -- The first write leaves the length of what is in front of the second as it was.
  have same : (xs ++ one :: ys).length = (xs ++ other :: ys).length := by simp
  simp only [exchange, first, second, written]
  rw [same, List.set_append_right _ _ (Nat.le_refl _)]
  simp

/-- Which of two entries is named first makes no difference to their exchange. -/
theorem exchange_comm (entries : List Entry) (index other : Nat) :
    exchange entries index other = exchange entries other index := by
  by_cases same : index = other
  · rw [same]
  · cases first : entries[index]? with
    | none => cases second : entries[other]? <;> simp [exchange, first, second]
    | some one =>
      cases second : entries[other]? with
      | none => simp [exchange, first, second]
      | some two =>
        simp only [exchange, first, second]
        -- Two entries at different places are set in either order.
        exact List.set_comm two one same

/--
A module is put together from the segments of its entries, each of which stands in it as it is.

Rendering turns a list of entries that is put together from two into the two modules with a newline
between them. Every segment ends with a newline, so in front of every segment but the first there is
an empty line. An entry that is replaced changes its segment and nothing else, and one that is
removed, duplicated or swapped takes its whole segment with it.
-/
theorem module_of_segments (settings : Settings) :
    (∀ xs ys, moduleText settings (xs ++ ys) =
        if ys = [] then moduleText settings xs
        else if xs = [] then moduleText settings ys
        else moduleText settings xs ++ "\n" ++ moduleText settings ys) ∧
      (∀ entry, ∃ text, segment settings entry = text ++ "\n") ∧
      (∀ first rest, ∃ text, moduleText settings (first :: rest) = text ++ "\n") ∧
      (∀ first rest, ∃ text, above settings (first :: rest) = text ++ "\n\n") ∧
      (∀ xs entry ys, moduleText settings (xs ++ entry :: ys) =
        above settings xs ++ segment settings entry ++ below settings ys) ∧
      (∀ xs entry other ys, moduleText settings ((xs ++ entry :: ys).set xs.length other) =
        above settings xs ++ segment settings other ++ below settings ys) ∧
      (∀ xs entry ys,
        (after { settings, entries := xs ++ entry :: ys } (.remove xs.length)).render.value =
          if ys = [] then moduleText settings xs
          else above settings xs ++ moduleText settings ys) ∧
      (∀ xs entry ys,
        (after { settings, entries := xs ++ entry :: ys } (.duplicate xs.length)).render.value =
          above settings xs ++ segment settings entry ++ below settings ys ++ "\n" ++
            segment settings entry) ∧
      (∀ xs one ys other zs,
        moduleText settings (xs ++ one :: ys ++ other :: zs) =
            above settings xs ++ segment settings one ++ "\n" ++ above settings ys ++
              segment settings other ++ below settings zs ∧
          (after { settings, entries := xs ++ one :: ys ++ other :: zs }
              (.swap xs.length (xs ++ one :: ys).length)).render.value =
            above settings xs ++ segment settings other ++ "\n" ++ above settings ys ++
              segment settings one ++ below settings zs) ∧
      ∀ entries index other,
        after { settings, entries } (.swap index other) =
          after { settings, entries } (.swap other index) := by
  -- Two segments of a module stand between three parts of it, whatever the segments are.
  have twice : ∀ xs one ys other zs, moduleText settings (xs ++ one :: ys ++ other :: zs) =
      above settings xs ++ segment settings one ++ "\n" ++ above settings ys ++
        segment settings other ++ below settings zs := by
    intro xs one ys other zs
    rw [moduleText_middle, above_middle]
  refine ⟨moduleText_append settings, exists_segment_eq settings, exists_moduleText_eq settings,
    exists_above_eq settings, moduleText_middle settings, ?_, ?_, ?_, ?_, ?_⟩
  · intro xs entry other ys
    have replaced : (xs ++ entry :: ys).set xs.length other = xs ++ other :: ys := by simp
    rw [replaced, moduleText_middle]
  · intro xs entry ys
    rw [after_remove]
    change moduleText settings (xs ++ ys) = _
    rw [moduleText_append, above]
    by_cases first : xs = [] <;> simp [first]
  · intro xs entry ys
    rw [after_duplicate]
    change moduleText settings (xs ++ entry :: ys ++ [entry]) = _
    rw [moduleText_append, moduleText_middle, ← segment, if_neg (by simp), if_neg (by simp)]
  · intro xs one ys other zs
    refine ⟨twice xs one ys other zs, ?_⟩
    -- The indices are the places of the two entries, so each goes where the other was.
    have swapped : after { settings, entries := xs ++ one :: ys ++ other :: zs }
        (.swap xs.length (xs ++ one :: ys).length) =
          { settings, entries := xs ++ other :: ys ++ one :: zs } := by
      simp only [after, edit, exchange_middle, withEntries]
    rw [swapped]
    exact twice xs other ys one zs
  · intro entries index other
    simp only [after, edit, exchange_comm entries index other]

end DeclGen.Manifest
