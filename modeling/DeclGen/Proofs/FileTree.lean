import DeclGen.FileTree
import Mathlib.Data.List.Infix

/-!
Files that a text is written to: it stands where it was written, and nothing else has changed.

What a path leads through are directories, and a text is never written where one of them stands, so
every path still leads where it led before.
-/

namespace DeclGen.FileTree

variable {tree : FileTree} {place other next : FilePlace} {path name : String}

/-- A place that only directories stand above. -/
def Reachable (tree : FileTree) (place : FilePlace) : Prop :=
  ∀ above, above <+: place → above ≠ place → tree.node? above = some .directory

/-- The working directory is there, and so is what stands above it. -/
theorem node?_of_above (above : place.getLast?.all (· = "..") = true) :
    tree.node? place = some .directory := by
  simp only [node?, above, if_true]

/-- A path starts at the working directory or at the root, above which nothing is missing. -/
theorem reachable_start : tree.Reachable (start path) := by
  intro above shorter proper
  refine node?_of_above ?_
  unfold start at shorter proper
  split at shorter
  · -- Only the working directory is written as a shorter place than the root.
    rcases List.prefix_cons_iff.mp shorter with rfl | ⟨rest, rfl, rest_nil⟩
    · rfl
    · simp_all [root]
  · simp_all

/-- A step goes on from a directory, to the place that its name says. -/
theorem exists_of_step (stepped : tree.step place name = .ok next) :
    tree.node? place = some .directory ∧ next = enter place name := by
  -- A step fails on anything but a directory, and there on a name that is too long.
  unfold step at stepped
  split at stepped
  next here =>
    split at stepped
    · cases stepped
    · cases stepped
      exact ⟨here, rfl⟩
  next => cases stepped
  next => cases stepped

/-- A step leaves only directories above the place it leads to. -/
theorem Reachable.step (reachable : tree.Reachable place)
    (stepped : tree.step place name = .ok next) : tree.Reachable next := by
  obtain ⟨here, rfl⟩ := exists_of_step stepped
  intro above shorter proper
  unfold enter at shorter proper
  split at shorter
  next stays =>
    rw [if_pos stays] at proper
    exact reachable above shorter proper
  next moves =>
    rw [if_neg moves] at proper
    split at shorter
    next up =>
      -- What stands above the directory above stands above the directory, too.
      rw [if_pos up] at proper
      have higher := shorter.trans (List.dropLast_prefix place)
      refine reachable above higher fun same => ?_
      have := shorter.length_le
      simp only [same, List.length_dropLast] at this
      have filled : place ≠ [] := by
        rintro rfl
        simp at up
      have := List.length_pos_iff.mpr filled
      omega
    next down =>
      -- One name further down there is the directory itself above, besides what is above that.
      rw [if_neg down] at proper
      rcases List.prefix_concat_iff.mp (by simpa using shorter) with same | higher
      · exact absurd same proper
      · by_cases same : above = place
        · exact same ▸ here
        · exact reachable above higher same

/-- A way along names leaves only directories above the place it leads to. -/
theorem Reachable.steps {names : List String} (reachable : tree.Reachable place)
    (went : names.foldlM tree.step place = .ok next) : tree.Reachable next := by
  -- Each step goes on from a place that is reachable by the steps in front of it.
  induction names generalizing place with
  | nil =>
    cases went
    exact reachable
  | cons name names ih =>
    rw [List.foldlM_cons] at went
    cases stepped : tree.step place name with
    | error failure => simp [stepped, Bind.bind, Except.bind] at went
    | ok middle =>
      simp only [stepped, Bind.bind, Except.bind] at went
      exact ih (reachable.step stepped) went

/-- What is listed at a place, if anything is. -/
def listed? (tree : FileTree) (place : FilePlace) : Option FileNode :=
  ((tree.nodes ++ system).find? (·.1 = place)).map (·.2)

/-- Whether something is listed at a place or further down. -/
def leadsOn (tree : FileTree) (place : FilePlace) : Bool :=
  (tree.nodes ++ system).any fun node => place.isPrefixOf node.1

/-- What stands at a place is what is listed there, or a directory on the way to what is listed. -/
theorem node?_eq (within : place.getLast?.all (· = "..") = false) :
    tree.node? place =
      (tree.listed? place).or (if tree.leadsOn place then some .directory else none) := by
  simp only [node?, within, Bool.false_eq_true, if_false, listed?, leadsOn]
  cases (tree.nodes ++ system).find? (·.1 = place) <;> rfl

variable {node : FileNode}

/-- What is put at a place is listed there, and all other places keep what they list. -/
theorem listed?_put (tree : FileTree) (place : FilePlace) (node : FileNode) (other : FilePlace) :
    (tree.put place node).listed? other =
      if other = place then some node else tree.listed? other := by
  -- The nodes that are left are those of all places but one.
  have left : (tree.nodes.filter (·.1 ≠ place)).find? (·.1 = other) =
      if other = place then none else tree.nodes.find? (·.1 = other) := by
    rw [List.find?_filter]
    split
    next same => simp [same]
    next differs =>
      congr 1
      funext one
      by_cases same : one.1 = other <;> simp [same, differs]
  simp only [listed?, put, List.find?_append, left, List.find?_singleton]
  by_cases same : other = place
  · simp [same]
  · simp [same, Ne.symm same]

/-- What is put at a place makes directories of the places that lead to it, and of no others. -/
theorem leadsOn_put (tree : FileTree) (place : FilePlace) (node : FileNode) (other : FilePlace) :
    (tree.put place node).leadsOn other = (tree.leadsOn other || other.isPrefixOf place) := by
  rw [Bool.eq_iff_iff]
  simp only [leadsOn, put, List.any_append, List.any_filter, List.any_cons, List.any_nil,
    Bool.or_eq_true, List.any_eq_true, Bool.and_eq_true, decide_eq_true_eq, Bool.or_false]
  constructor
  · rintro ((⟨one, member, -, shorter⟩ | shorter) | inSystem)
    · exact .inl (.inl ⟨one, member, shorter⟩)
    · exact .inr shorter
    · exact .inl (.inr inSystem)
  · rintro ((⟨one, member, shorter⟩ | inSystem) | shorter)
    · -- A node that is replaced had the place of the new one.
      by_cases same : one.1 = place
      · exact .inl (.inr (same ▸ shorter))
      · exact .inl (.inl ⟨one, member, same, shorter⟩)
    · exact .inr inSystem
    · exact .inl (.inr shorter)

/-- What is put at a place stands there, unless there is always a directory. -/
theorem node?_put_self (within : place.getLast?.all (· = "..") = false) :
    (tree.put place node).node? place = some node := by
  simp [node?_eq within, listed?_put]

/-- What is put at a reachable place leaves all other places as they are. -/
theorem node?_put_other (reachable : tree.Reachable place) (differs : other ≠ place) :
    (tree.put place node).node? other = tree.node? other := by
  cases within : other.getLast?.all (· = "..") with
  | true => rw [node?_of_above within, node?_of_above within]
  | false =>
    rw [node?_eq within, node?_eq within, listed?_put, if_neg differs, leadsOn_put]
    by_cases shorter : other <+: place
    · -- A place that leads to the new node was a directory already.
      have before := reachable other shorter differs
      rw [node?_eq within] at before
      rw [before]
      cases here : tree.listed? other with
      | some found => simpa [here] using before
      | none => simp [List.isPrefixOf_iff_prefix.mpr shorter]
    · have apart : other.isPrefixOf place = false := by
        simpa [← List.isPrefixOf_iff_prefix] using shorter
      simp [apart]

/-- A way along directories is still there where no directory was replaced. -/
theorem foldlM_step_put (reachable : tree.Reachable place)
    (free : tree.node? place ≠ some .directory) {names : List String} {here there : FilePlace}
    (went : names.foldlM tree.step here = .ok there) :
    names.foldlM (tree.put place node).step here = .ok there := by
  induction names generalizing here with
  | nil => exact went
  | cons name names ih =>
    rw [List.foldlM_cons] at went ⊢
    cases stepped : tree.step here name with
    | error failure => simp [stepped, Bind.bind, Except.bind] at went
    | ok middle =>
      simp only [stepped, Bind.bind, Except.bind] at went
      -- A step goes on from a directory, so it does not go on from what was replaced.
      have differs : here ≠ place := fun same => free (same ▸ (exists_of_step stepped).1)
      have again : (tree.put place node).step here name = .ok middle := by
        rw [← stepped, step, step, node?_put_other reachable differs]
      simp only [again, Bind.bind, Except.bind]
      exact ih went

/-- A step along dots leads to a directory. -/
theorem directory_of_dots (reachable : tree.Reachable place)
    (stepped : tree.step place name = .ok next) (dots : name = "." ∨ name = "..") :
    tree.node? next = some .directory := by
  obtain ⟨here, rfl⟩ := exists_of_step stepped
  unfold enter
  split
  · exact here
  next moves =>
    -- One dot stays where it is, so there are two.
    have up : name = ".." := dots.resolve_left fun stays => moves (.inr (.inl stays))
    split
    next climbs =>
      have filled : place ≠ [] := by
        rintro rfl
        simp at climbs
      -- The directory above is another one, as fewer names lead to it.
      refine reachable _ (List.dropLast_prefix place) fun same => ?_
      have shorter := congrArg List.length same
      have := List.length_pos_iff.mpr filled
      rw [List.length_dropLast] at shorter
      omega
    next => exact node?_of_above (by simp [up])

/-- A text is written where the last step leads, and no directory stands there. -/
theorem step_of_sinkAt (written : tree.sinkAt place name = .ok (.file next)) :
    tree.step place name = .ok next ∧ tree.node? next ≠ some .directory := by
  unfold sinkAt at written
  cases stepped : tree.step place name with
  | error failure => simp [stepped, Bind.bind, Except.bind] at written
  | ok target =>
    simp only [stepped, Bind.bind, Except.bind] at written
    -- A text goes to a file or to a new place, both of which are where the step leads.
    have same : target = next := by split at written <;> simp_all
    subst same
    refine ⟨rfl, fun directory => ?_⟩
    simp [directory] at written

/-- Names that do not end with an empty one are followed as they stand. -/
theorem eq_append_of_dropWhile {names parents : List String} {last : String}
    (cut : names.reverse.dropWhile (· = "") = last :: parents)
    (ends : names.reverse.head? ≠ some "") : names = parents.reverse ++ [last] := by
  -- The last name is not empty, so nothing was dropped from the end.
  have kept : names.reverse.dropWhile (· = "") = names.reverse := by
    cases reversed : names.reverse with
    | nil => rfl
    | cons first rest =>
      have filled : first ≠ "" := by simpa [reversed] using ends
      simp [filled]
  rw [← List.reverse_reverse names, ← kept, cut, List.reverse_cons]

/-- A text is written to the place that its path leads to, and no directory stands there. -/
theorem exists_of_sink (written : tree.sink path = .ok (.file place)) :
    tree.locate path = .ok place ∧ tree.Reachable place ∧
      tree.node? place ≠ some .directory := by
  unfold sink at written
  unfold locate
  cases checked : checkPath path with
  | error failure => simp [checked, Bind.bind, Except.bind] at written
  | ok _ =>
    simp only [checked, Bind.bind, Except.bind] at written ⊢
    split at written
    next => cases written
    next last parents cut =>
      -- All names but the last one lead to a place that is reachable.
      cases way : parents.reverse.foldlM tree.step (start path) with
      | error failure => simp [way] at written
      | ok above =>
        simp only [way] at written
        have higher := reachable_start.steps way
        split at written
        next => cases stepped : tree.step above "." <;> simp [stepped] at written
        next noSlash =>
          obtain ⟨stepped, free⟩ := step_of_sinkAt written
          -- A slash at the end is only passed over behind dots, which lead to a directory.
          have ends : (names path).reverse.head? ≠ some "" := by
            intro slash
            have dots : last = "." ∨ last = ".." := by
              by_contra neither
              exact noSlash ⟨slash, not_or.mp neither⟩
            exact free (directory_of_dots higher stepped dots)
          refine ⟨?_, higher.step stepped, free⟩
          rw [eq_append_of_dropWhile cut ends, List.foldlM_append, way]
          simp only [Bind.bind, Except.bind, List.foldlM_cons, stepped]
          rfl

/-- The text of a file is read from its bytes. -/
theorem read_eq_of_file (located : tree.locate path = .ok place) {text : String}
    (stands : tree.node? place = some (.file text.toUTF8)) : tree.read path = .ok text := by
  have decoded : String.fromUTF8? text.toUTF8 = some text := by
    unfold String.fromUTF8?
    exact dif_pos text.isValidUTF8
  simp only [read, located, Bind.bind, Except.bind, stands, decoded]

/-- What was written to a file is read from it, and all other places are as they were. -/
theorem read_write (written : tree.sink path = .ok (.file place)) (text : String) :
    (tree.write text (.file place)).read path = .ok text ∧
      (tree.write text (.file place)).node? place = some (.file text.toUTF8) ∧
      ∀ other, other ≠ place → (tree.write text (.file place)).node? other = tree.node? other := by
  obtain ⟨located, reachable, free⟩ := exists_of_sink written
  -- The place is written by its names, as a place above would be a directory.
  have within : place.getLast?.all (· = "..") = false := by
    by_contra above
    exact free (node?_of_above (by simpa using above))
  have stands : (tree.put place (.file text.toUTF8)).node? place = some (.file text.toUTF8) :=
    node?_put_self within
  -- The directories on the way are the same as before, so the path leads there again.
  have again : (tree.put place (.file text.toUTF8)).locate path = .ok place := by
    unfold locate at located ⊢
    cases checked : checkPath path with
    | error failure => simp [checked, Bind.bind, Except.bind] at located
    | ok _ =>
      simp only [checked, Bind.bind, Except.bind] at located ⊢
      exact foldlM_step_put reachable free located
  exact ⟨read_eq_of_file again stands, stands,
    fun other differs => node?_put_other reachable differs⟩

end DeclGen.FileTree
