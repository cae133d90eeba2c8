import DeclGen.Declaration.Render
import Mathlib.Data.List.Induction

/-!
Runs of calls leave in every field what was written to it last, whatever happened in between.

A comment without text writes nothing, and one with text is written alike under all settings.
-/

namespace DeclGen.Declaration

/-- A part of a declaration that calls write to; each call writes to one of them at most. -/
inductive Slot where
  | kind
  | name
  | generics
  | decorator
  | content
  | block
  /-- The method around the block, and with it whether the wrapper is left out. -/
  | method
  | comment
  | settings
  deriving DecidableEq, Repr

/-- What is written to a slot; a comment is given by its text. -/
abbrev Slot.Value : Slot → Type
  | .kind => Kind
  | .name | .generics | .decorator | .content | .block | .comment => String
  | .method => String × Bool
  | .settings => Settings

/-- What a call writes to a slot, if it writes to it at all. -/
def Call.written : (slot : Slot) → Call → Option slot.Value
  | .kind, .kind value => some value
  | .name, .name value => some value
  | .generics, .generics value => some value
  | .decorator, .decorator value => some value
  | .content, .content value => some value
  | .block, .block value => some value
  | .method, .method value ignored => some (value, ignored)
  | .comment, .comment source => source.text?
  | .settings, .settings value => some value
  | _, _ => none

/-- What the last of those calls writes to a slot that write to it. -/
def lastWritten (calls : List Call) (slot : Slot) : Option slot.Value :=
  (calls.filterMap (·.written slot)).getLast?

/-- A declaration with a new value in every slot for which there is one. -/
def overwrite (declaration : Declaration) (values : (slot : Slot) → Option slot.Value) :
    Declaration where
  settings := (values .settings).getD declaration.settings
  kind := (values .kind).or declaration.kind
  name := (values .name).getD declaration.name
  generics := (values .generics).or declaration.generics
  decorator := (values .decorator).or declaration.decorator
  content := (values .content).or declaration.content
  block := (values .block).or declaration.block
  method := ((values .method).map Prod.fst).or declaration.method
  ignoreBlockWrapper := ((values .method).map Prod.snd).getD declaration.ignoreBlockWrapper
  comment := ((values .comment).map fun text => Comment.render 0 (.text text)).or
    declaration.comment

/-- At level zero a comment text is written without its unit. -/
theorem fragment_zero {source : CommentSource} {text : String} (given : source.text? = some text)
    (unit : Indent) : Comment.fragment unit 0 text = Comment.render 0 (.text text) := by
  -- A text that was found is not empty, so it is found again.
  have filled : text ≠ "" := by
    cases source with
    | absent => simp [CommentSource.text?] at given
    | text value =>
      by_cases empty : value = ""
      · simp [CommentSource.text?, empty] at given
      · simp only [CommentSource.text?, if_neg empty, Option.some.injEq] at given
        exact given ▸ empty
    | node literal =>
      by_cases empty : literal.value = ""
      · simp [CommentSource.text?, empty] at given
      · simp only [CommentSource.text?, if_neg empty, Option.some.injEq] at given
        exact given ▸ empty
  -- No level puts nothing in front of a line.
  have unmoved : ∀ other : Indent, other.indent 0 = unit.indent 0 := fun _ => rfl
  simp only [Comment.render, Comment.renderWith, CommentSource.text?, if_neg filled,
    Comment.fragment, unmoved .python]

/-- A comment without text changes nothing. -/
theorem apply_comment_of_none {source : CommentSource} (absent : source.text? = none)
    (declaration : Declaration) : declaration.apply (.comment source) = declaration := by
  simp [apply, withComment, absent]

/-- One call overwrites the slot that it writes to. -/
theorem apply_eq_overwrite (declaration : Declaration) (call : Call) :
    declaration.apply call = declaration.overwrite (call.written ·) := by
  cases call with
  | comment source =>
    cases given : source.text? with
    | none => simp [apply_comment_of_none given, overwrite, Call.written, given]
    | some text =>
      -- The settings in force have no part in what is written.
      simp [apply, withComment, overwrite, Call.written, given, fragment_zero given]
  | kind value => rfl
  | name value => rfl
  | generics value => rfl
  | decorator value => rfl
  | content value => rfl
  | block value => rfl
  | method value ignored => rfl
  | settings value => rfl

/-- Of two values for a slot the later one stays. -/
theorem overwrite_overwrite (declaration : Declaration)
    (earlier later : (slot : Slot) → Option slot.Value) :
    (declaration.overwrite earlier).overwrite later =
      declaration.overwrite fun slot => (later slot).or (earlier slot) := by
  simp only [overwrite, Option.or_assoc, Option.map_or, Option.getD_or]

/-- A run of calls writes last what its last call writes, or else what was written before. -/
theorem lastWritten_append_singleton (calls : List Call) (call : Call) (slot : Slot) :
    lastWritten (calls ++ [call]) slot = (call.written slot).or (lastWritten calls slot) := by
  cases written : call.written slot <;> simp [lastWritten, List.filterMap_append, written]

/-- A run of calls overwrites every slot with what is written to it last. -/
theorem applyAll_eq_overwrite (declaration : Declaration) (calls : List Call) :
    declaration.applyAll calls = declaration.overwrite (lastWritten calls) := by
  -- A run grows at its end, where the call in hand overwrites what the run before it left.
  induction calls using List.reverseRecOn with
  | nil => rfl
  | append_singleton calls call ih =>
    rw [applyAll] at ih
    rw [applyAll, List.foldl_append, ih, List.foldl_cons, List.foldl_nil, apply_eq_overwrite,
      overwrite_overwrite]
    simp only [← lastWritten_append_singleton]

/--
A new declaration has in every field what the calls write to it last, in whatever order they come.

Its comment is that of the last comment text, as it is written without any settings. So calls that
write the same last, and leave the same settings, make the same declaration and the same text.
-/
theorem applyAll_new (start : Settings) (calls : List Call) :
    ({ settings := start } : Declaration).applyAll calls =
        { settings := (lastWritten calls .settings).getD start
          kind := lastWritten calls .kind
          name := (lastWritten calls .name).getD ""
          generics := lastWritten calls .generics
          decorator := lastWritten calls .decorator
          content := lastWritten calls .content
          block := lastWritten calls .block
          method := (lastWritten calls .method).map Prod.fst
          ignoreBlockWrapper := ((lastWritten calls .method).map Prod.snd).getD false
          comment := (lastWritten calls .comment).map fun text =>
            Comment.render 0 (.text text) } ∧
      (∀ source : CommentSource, source.text? = none → ∀ declaration : Declaration,
        declaration.apply (.comment source) = declaration) ∧
      ∀ (otherStart : Settings) (others : List Call),
        (∀ slot, slot ≠ .settings → lastWritten others slot = lastWritten calls slot) →
        (lastWritten others .settings).getD otherStart =
          (lastWritten calls .settings).getD start →
        ({ settings := otherStart } : Declaration).applyAll others =
            ({ settings := start } : Declaration).applyAll calls ∧
          (({ settings := otherStart } : Declaration).applyAll others).render =
            (({ settings := start } : Declaration).applyAll calls).render := by
  refine ⟨?_, fun source absent => apply_comment_of_none absent, ?_⟩
  · simp only [applyAll_eq_overwrite, overwrite, Option.or_none]
  · -- Nothing but the last writes is left of a run, so runs with the same ones agree.
    intro otherStart others same settings
    have record : ({ settings := otherStart } : Declaration).applyAll others =
        ({ settings := start } : Declaration).applyAll calls := by
      simp only [applyAll_eq_overwrite, overwrite, settings, ne_eq, reduceCtorEq,
        not_false_eq_true, same]
    exact ⟨record, by rw [record]⟩

/--
Two runs of calls end alike: in one a kind is written twice, and in both a comment without text
comes behind the one that stays.
-/
theorem applyAll_new_of_two_orders :
    let calls : List Call := [.comment (.text "kept"), .settings { indent := .tab }, .kind .union,
      .comment (.text ""), .method "f" true, .kind .enum]
    let others : List Call := [.kind .enum, .method "f" true, .settings { indent := .tab },
      .comment (.node ⟨"kept", true⟩), .comment .absent]
    (∀ slot, slot ≠ .settings → lastWritten others slot = lastWritten calls slot) ∧
      (lastWritten others .settings).getD { blockWrapper := "(" } =
        (lastWritten calls .settings).getD {} ∧
      CommentSource.text? (.text "") = none ∧
      ({ settings := { blockWrapper := "(" } } : Declaration).applyAll others =
        ({ settings := {} } : Declaration).applyAll calls := by
  intro calls others
  -- Calls that are overwritten later, and comments without a text, leave no trace.
  have same : ∀ slot, slot ≠ .settings → lastWritten others slot = lastWritten calls slot := by
    intro slot _
    cases slot <;> simp [calls, others, lastWritten, Call.written, CommentSource.text?]
  have settings : (lastWritten others .settings).getD { blockWrapper := "(" } =
      (lastWritten calls .settings).getD {} := rfl
  have agree := (applyAll_new {} calls).2.2 { blockWrapper := "(" } others same settings
  exact ⟨same, settings, by simp [CommentSource.text?], agree.1⟩

end DeclGen.Declaration
