import DeclGen.Schema.Record

/-! Readers that refuse: runs of readers refuse with the first fault of all. -/

namespace DeclGen

/-- What is seen of a run that fails is seen of its error alone. -/
theorem eq_error_of_map {ε α β : Type} {run : Except ε α} {error : ε} (view : α → β)
    (seen : run.map view = .error error) : run = .error error := by
  cases run with
  | ok result => cases seen
  | error other =>
    cases seen
    rfl

namespace Schema

variable {L α β : Type}

/-- The fault with which a reader refuses a value, if it does. -/
def refusal : Except (Fault L) α → Option (Fault L)
  | .ok _ => none
  | .error fault => some fault

/-- What is read is not refused. -/
@[simp] theorem refusal_ok (result : α) : refusal (.ok result : Except (Fault L) α) = none := rfl

/-- What is not read is refused with its fault. -/
@[simp] theorem refusal_error (fault : Fault L) :
    refusal (.error fault : Except (Fault L) α) = some fault := rfl

/-- Nothing is refused exactly where there is a result. -/
theorem refusal_eq_none_iff (run : Except (Fault L) α) :
    refusal run = none ↔ ∃ result, run = .ok result := by
  cases run <;> simp

/-- A result that is only changed is refused as before. -/
@[simp] theorem refusal_bind_pure (run : Except (Fault L) α) (f : α → β) :
    refusal (run >>= fun result => pure (f result)) = refusal run := by
  cases run <;> rfl

/-- A changed result comes from a result. -/
theorem eq_ok_of_bind_pure {run : Except (Fault L) α} {f : α → β} {changed : β}
    (done : (run >>= fun result => pure (f result)) = .ok changed) :
    ∃ result, run = .ok result ∧ changed = f result := by
  cases run with
  | error fault => simp [Bind.bind, Except.bind] at done
  | ok result =>
    simp only [Bind.bind, Except.bind, Pure.pure, Except.pure, Except.ok.injEq] at done
    exact ⟨result, rfl, done.symm⟩

/-- What goes on from a result fails before it or behind it. -/
theorem error_of_bind {ε : Type} {run : Except ε α} {next : α → Except ε β} {error : ε}
    (failed : (run >>= next) = .error error) :
    run = .error error ∨ ∃ result, run = .ok result ∧ next result = .error error := by
  cases run with
  | error here =>
    left
    simpa only [Bind.bind, Except.bind, Except.error.injEq] using failed
  | ok result => exact .inr ⟨result, rfl, failed⟩

/-- A run of steps fails because one of them does. -/
theorem exists_of_foldlM_error {ι ε ρ : Type} {step : ρ → ι → Except ε ρ} {items : List ι}
    {start : ρ} {error : ε} (failed : items.foldlM step start = .error error) :
    ∃ item ∈ items, ∃ record, step record item = .error error := by
  induction items generalizing start with
  | nil => cases failed
  | cons item rest ih =>
    rw [List.foldlM_cons] at failed
    -- The first item fails here, or the rest fails from the record that this item leaves.
    rcases error_of_bind failed with here | ⟨next, -, later⟩
    · exact ⟨item, by simp, start, here⟩
    · obtain ⟨other, member, record, there⟩ := ih later
      exact ⟨other, by simp [member], record, there⟩

/--
A run of steps, each of which refuses with the first fault of its item, refuses with the first fault
of all items.
-/
theorem refusal_foldlM {ι ρ : Type} {step : ρ → ι → Except (Fault L) ρ}
    {faults : ι → List (Fault L)} {items : List ι}
    (agree : ∀ item ∈ items, ∀ record, refusal (step record item) = (faults item).head?)
    (start : ρ) : refusal (items.foldlM step start) = (items.flatMap faults).head? := by
  -- An item that is taken has no faults, so the first fault comes from the rest.
  induction items generalizing start with
  | nil => rfl
  | cons item rest ih =>
    have here := agree item (by simp) start
    have later := ih (fun other member => agree other (by simp [member]))
    rw [List.foldlM_cons, List.flatMap_cons, List.head?_append, ← here]
    cases taken : step start item with
    | error fault => simp [Bind.bind, Except.bind]
    | ok next => simp [Bind.bind, Except.bind, later]

/--
Values in a row, each of which is refused with its first fault, are refused with the first fault of
all.
-/
theorem refusal_mapM {ι : Type} {read : ι → Except (Fault L) α} {faults : ι → List (Fault L)}
    {items : List ι} (agree : ∀ item ∈ items, refusal (read item) = (faults item).head?) :
    refusal (items.mapM read) = (items.flatMap faults).head? := by
  induction items with
  | nil => rfl
  | cons item rest ih =>
    -- A fault in front hides all others, and an item that is taken has none.
    have here := agree item (by simp)
    have later := ih (fun other member => agree other (by simp [member]))
    rw [List.mapM_cons, List.flatMap_cons, List.head?_append, ← here]
    cases taken : read item with
    | error fault => simp [Bind.bind, Except.bind]
    | ok result =>
      rw [← later]
      cases rest.mapM read <;> rfl

end Schema

end DeclGen
