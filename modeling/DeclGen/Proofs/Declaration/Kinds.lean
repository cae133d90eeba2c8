import DeclGen.Proofs.Declaration.Body
import Mathlib.Logic.Basic

/-!
What the kind of a declaration changes of its text, with everything else left as it is.

It decides the keyword in front of the name and the suffix behind it. In a body it tells scalars
from others behind a block, and unions from others behind inline content.
-/

namespace DeclGen.Declaration

variable (declaration : Declaration)

/-- The declaration with a kind, or with none. -/
def withKind (kind : Option Kind) : Declaration := { declaration with kind }

variable {kind other : Option Kind}

/-- The kind is the one that was set. -/
@[simp] theorem kind_withKind : (declaration.withKind kind).kind = kind := rfl

/-- The line of the name stands between what is above it and the body. -/
theorem render_withKind (kind : Option Kind) :
    (declaration.withKind kind).render =
      declaration.lead ++ Kind.keyword kind ++ declaration.fullName ++ Kind.suffix kind ++
        (declaration.withKind kind).body ++ "\n" := by
  simp [render, lead, header, decoratorLine, withKind, fullName, String.append_assoc]

variable {declaration}

/-- Nothing is written of a declaration without block and content, whatever its kind. -/
theorem body_withKind_of_nothing (bare : present declaration.block = none)
    (absent : present declaration.content = none) (kind : Option Kind) :
    (declaration.withKind kind).body = "" :=
  body_of_nothing bare absent

/-- The bracket is all that the kind decides of inline content. -/
theorem body_withKind_of_content {content : String} (bare : present declaration.block = none)
    (given : present declaration.content = some content) (kind : Option Kind) :
    (declaration.withKind kind).body =
      content ++ (if kind = some .union then "]" else "") ++ "\n" ++
        selfReference declaration.fullName :=
  body_of_content bare given

/-- What is assembled is all that the kind decides of a block. -/
theorem body_withKind_of_block {block : String} (shown : present declaration.block = some block)
    (kind : Option Kind) :
    (declaration.withKind kind).body =
      (present declaration.content).getD "" ++ (declaration.callOpening ++
        declaration.settings.transformer.apply ((declaration.withKind kind).assembledBlock block) ++
        declaration.callClosing) := by
  have given : (declaration.withKind kind).block = some block := eq_some_of_present shown
  rw [body_of_block given (ne_empty_of_present shown), blockBody_eq_call]
  rfl

/-- Without a block only unions have another body. -/
theorem body_withKind_of_bare (bare : present declaration.block = none)
    (union : kind = some .union ↔ other = some .union) :
    (declaration.withKind kind).body = (declaration.withKind other).body := by
  cases inner : present declaration.content with
  | none => rw [body_withKind_of_nothing bare inner, body_withKind_of_nothing bare inner]
  | some content =>
    -- The bracket is closed for both or for none.
    rw [body_withKind_of_content bare inner, body_withKind_of_content bare inner,
      if_congr union rfl rfl]

/-- Kinds that are alike in both respects have the same body. -/
theorem body_withKind (scalar : kind = some .scalar ↔ other = some .scalar)
    (union : kind = some .union ↔ other = some .union) :
    (declaration.withKind kind).body = (declaration.withKind other).body := by
  cases shown : present declaration.block with
  | none => exact body_withKind_of_bare shown union
  | some block =>
    -- Behind a block it only matters whether the alias follows.
    have after : (declaration.withKind kind).afterBlock =
        (declaration.withKind other).afterBlock :=
      if_congr scalar rfl rfl
    rw [body_withKind_of_block shown, body_withKind_of_block shown, assembledBlock,
      assembledBlock, after]
    rfl

/-- With a block and no call around it the scalar lacks the alias of the class. -/
theorem render_scalar_of_block {block : String} (shown : present declaration.block = some block)
    (identity : declaration.settings.transformer = .identity)
    (uncalled : present declaration.method = none) :
    ∃ front, (declaration.withKind (some .scalar)).render = front ++ "\n" ∧
      (declaration.withKind (some .plain)).render =
        front ++ (if declaration.wrapper = "" then "\n\n" else "\n") ++
          selfReference declaration.fullName ++ "\n" := by
  have filled := ne_empty_of_present shown
  -- Without a call and a transformation the body is the content and what is assembled.
  have body : ∀ kind, (declaration.withKind kind).body =
      (present declaration.content).getD "" ++
        (declaration.withKind kind).assembledBlock block := by
    intro kind
    simp [body_withKind_of_block shown, callOpening, callClosing, uncalled, identity,
      BlockTransformer.identity]
  have scalar : (declaration.withKind (some .scalar)).assembledBlock block =
      declaration.openedBlock block ++
        if declaration.wrapper = "" then "" else "\n" ++ declaration.wrapper :=
    assembledBlock_of_scalar rfl filled
  have plain : (declaration.withKind (some .plain)).assembledBlock block =
      declaration.openedBlock block ++ "\n" ++ declaration.wrapper ++ "\n" ++
        selfReference declaration.fullName :=
    assembledBlock_of_alias (by simp) filled
  -- What both have in common ends with the wrapper, if that is written at all.
  refine ⟨declaration.lead ++ "class " ++ declaration.fullName ++
    (present declaration.content).getD "" ++ declaration.openedBlock block ++
    (if declaration.wrapper = "" then "" else "\n" ++ declaration.wrapper), ?_, ?_⟩
  · rw [render_withKind, body, scalar]
    simp [Kind.keyword, Kind.suffix, String.append_assoc]
  · rw [render_withKind, body, plain]
    -- A class keeps the line of a wrapper that is empty, and a scalar drops it.
    have twice : "\n\n" = "\n" ++ "\n" := rfl
    by_cases empty : declaration.wrapper = "" <;>
      simp [Kind.keyword, Kind.suffix, String.append_assoc, empty, twice]

/--
The kind of a declaration changes the parts that it is meant to change, and no others.

A class has its keyword in front of the name and an enum its base behind it. A scalar is a class
that binds no alias behind its block. The name of a union is followed by the bracket that is closed
behind inline content.
-/
theorem kinds_differ_in_parts (declaration : Declaration) :
    (∃ rest, (declaration.withKind none).render = declaration.lead ++ rest ∧
        (declaration.withKind (some .plain)).render = declaration.lead ++ "class " ++ rest) ∧
      (present declaration.block = none →
        (declaration.withKind (some .scalar)).render =
          (declaration.withKind (some .plain)).render) ∧
      (present declaration.block ≠ none → declaration.settings.transformer = .identity →
        present declaration.method = none →
        ∃ front, (declaration.withKind (some .scalar)).render = front ++ "\n" ∧
          (declaration.withKind (some .plain)).render =
            front ++ (if declaration.wrapper = "" then "\n\n" else "\n") ++
              selfReference declaration.fullName ++ "\n") ∧
      (∃ rest, (declaration.withKind (some .plain)).render =
          declaration.lead ++ "class " ++ declaration.fullName ++ rest ∧
        (declaration.withKind (some .enum)).render =
          declaration.lead ++ "class " ++ declaration.fullName ++ "(Enum)" ++ rest) ∧
      (present declaration.block = none →
        let content := (present declaration.content).getD ""
        let bracket := if present declaration.content = none then "" else "]"
        ∃ rest, (declaration.withKind none).render =
            declaration.lead ++ declaration.fullName ++ content ++ rest ∧
          (declaration.withKind (some .union)).render =
            declaration.lead ++ declaration.fullName ++ " = Union[" ++ content ++ bracket ++
              rest) := by
  refine ⟨?_, fun bare => ?_, fun filled identity uncalled => ?_, ?_, fun bare => ?_⟩
  · -- Neither of the two is a scalar or a union, so they differ in the keyword only.
    refine ⟨declaration.fullName ++ (declaration.withKind none).body ++ "\n", ?_, ?_⟩
    · simp [render_withKind, Kind.keyword, Kind.suffix, String.append_assoc]
    · have same : (declaration.withKind (some .plain)).body = (declaration.withKind none).body :=
        body_withKind (by simp) (by simp)
      rw [render_withKind, same]
      simp [Kind.keyword, Kind.suffix, String.append_assoc]
  · have same : (declaration.withKind (some .scalar)).body =
        (declaration.withKind (some .plain)).body :=
      body_withKind_of_bare bare (by simp)
    rw [render_withKind, render_withKind, same]
    rfl
  · obtain ⟨block, shown⟩ := Option.ne_none_iff_exists'.mp filled
    exact render_scalar_of_block shown identity uncalled
  · -- Nor is an enum, which has the keyword of a class.
    refine ⟨(declaration.withKind (some .plain)).body ++ "\n", ?_, ?_⟩
    · simp [render_withKind, Kind.keyword, Kind.suffix, String.append_assoc]
    · have same : (declaration.withKind (some .enum)).body =
          (declaration.withKind (some .plain)).body :=
        body_withKind (by simp) (by simp)
      rw [render_withKind, same]
      simp [Kind.keyword, Kind.suffix, String.append_assoc]
  · -- The bracket that a union opens is closed by inline content only.
    cases inner : present declaration.content with
    | none =>
      refine ⟨"\n", ?_, ?_⟩ <;>
        simp [render_withKind, body_withKind_of_nothing bare inner, Kind.keyword, Kind.suffix]
    | some content =>
      refine ⟨"\n" ++ selfReference declaration.fullName ++ "\n", ?_, ?_⟩ <;>
        simp [render_withKind, body_withKind_of_content bare inner, Kind.keyword, Kind.suffix,
          String.append_assoc, -String.reduceAppend]

/--
Without a wrapper the scalar drops a line that the class keeps; an empty block is none, so the
scalar is then the class, and the union closes its bracket.
-/
theorem kinds_differ_in_parts_of_two :
    let time : Declaration := { name := "Time", content := some "(str)", block := some "    pass" }
    let bare : Declaration := { name := "Time", content := some "A, B", block := some "" }
    (present time.block ≠ none ∧ time.settings.transformer = .identity ∧
        present time.method = none ∧
        ∃ front, (time.withKind (some .scalar)).render = front ++ "\n" ∧
          (time.withKind (some .plain)).render =
            front ++ "\n\n" ++ selfReference "Time" ++ "\n") ∧
      present bare.block = none ∧
        (bare.withKind (some .scalar)).render = (bare.withKind (some .plain)).render ∧
        ∃ rest, (bare.withKind none).render = "Time" ++ "A, B" ++ rest ∧
          (bare.withKind (some .union)).render =
            "Time" ++ " = Union[" ++ "A, B" ++ "]" ++ rest := by
  intro time bare
  have filled : present time.block ≠ none := by decide
  have uncalled : present time.method = none := rfl
  have unfilled : present bare.block = none := by decide
  -- One of the two has a block, and the block of the other one is empty.
  obtain ⟨-, -, aliased, -, -⟩ := kinds_differ_in_parts time
  obtain ⟨-, same, -, -, union⟩ := kinds_differ_in_parts bare
  exact ⟨⟨filled, rfl, uncalled, aliased filled rfl uncalled⟩, unfilled, same unfilled,
    union unfilled⟩

end DeclGen.Declaration
