import DeclGen.Proofs.Declaration.Body
import DeclGen.Proofs.Text.Brackets

/-!
Brackets of a rendered declaration: all that it opens it closes, but for one bracket of some unions.

The header of a union opens a bracket that is closed behind inline content only: where a block takes
the place of the content, or nothing follows the header, it stays open.
-/

namespace DeclGen

open Text (Balanced Bracket openAfter balanced_of_plain)

variable {sorts : List Bracket}

/-- The alias of a balanced name is balanced. -/
theorem balanced_selfReference {fullName : String} (balanced : Balanced sorts fullName) :
    Balanced sorts (selfReference fullName) := by
  have mark : Balanced sorts selfReferenceMark := balanced_of_plain (by decide)
  have sign : Balanced sorts "__ = " := balanced_of_plain (by decide)
  exact ((mark.append balanced).append sign).append balanced

/-- What stands behind the name is balanced, unless it opens a union. -/
theorem balanced_suffix {kind : Option Kind} (noUnion : kind ≠ some .union) :
    Balanced sorts (Kind.suffix kind) := by
  have base : Balanced sorts "Enum" := balanced_of_plain (by decide)
  -- Only the suffix of an enum has brackets, a pair of round ones, if that of a union is left out.
  rcases kind with _ | _ | _ | _ | _
  · exact Text.balanced_empty
  · exact Text.balanced_empty
  · exact base.enclose .round
  · exact absurd rfl noUnion
  · exact Text.balanced_empty

/-- The keyword of a kind has no brackets. -/
theorem balanced_keyword (kind : Option Kind) : Balanced sorts (Kind.keyword kind) := by
  rcases kind with _ | _ | _ | _ | _ <;> exact balanced_of_plain (by decide)

/-- Behind the name of a union its bracket is open. -/
theorem openAfter_unionSuffix (nest : List Bracket) (rest : List Char) :
    openAfter sorts nest ((Kind.suffix (some .union)).toList ++ rest) =
      openAfter sorts (Bracket.square.enter sorts nest) rest := by
  have sign : Balanced sorts " = Union" := balanced_of_plain (by decide)
  -- A union opens a square bracket behind a text without brackets.
  have suffix : (Kind.suffix (some .union)).toList =
      " = Union".toList ++ [Bracket.square.opening] :=
    rfl
  rw [suffix, List.append_assoc, Text.openAfter_balanced_append sign, List.singleton_append,
    Text.openAfter_opening]

namespace Declaration

variable {declaration : Declaration}

/-- Whether the bracket that the header of a union opens is left open. -/
def LeavesUnionOpen (declaration : Declaration) : Prop :=
  declaration.kind = some .union ∧
    (present declaration.block ≠ none ∨ present declaration.content = none)

instance (declaration : Declaration) : Decidable declaration.LeavesUnionOpen :=
  inferInstanceAs (Decidable (_ ∧ _))

section

variable (balanced : ∀ text ∈ declaration.texts, Balanced sorts text)

include balanced

/-- A balanced name with a balanced generic suffix is balanced. -/
theorem balanced_fullName : Balanced sorts declaration.fullName := by
  have name := balanced declaration.name (by simp [texts])
  -- The name and the generics are balanced each, and so is one behind the other.
  cases given : declaration.generics with
  | none => simpa [fullName, given] using name
  | some generics =>
    simpa [fullName, given] using name.append (balanced generics (by simp [texts, given]))

/-- The wrapper is balanced, as it is one of the texts or empty. -/
theorem balanced_wrapper : Balanced sorts declaration.wrapper := by
  unfold wrapper
  split
  · exact Text.balanced_empty
  · exact balanced _ (by simp [texts])

/-- The line of the decorator is balanced, as the decorator is. -/
theorem balanced_decoratorLine : Balanced sorts declaration.decoratorLine := by
  -- The decorator is one of the texts, and the newline behind it is no bracket.
  unfold decoratorLine
  split
  · rename_i decorator shown
    have given := eq_some_of_present shown
    exact (balanced decorator (by simp [texts, given])).append Text.balanced_newline
  · exact Text.balanced_empty

/-- The block is balanced together with the lines around it. -/
theorem balanced_assembledBlock {block : String} (given : declaration.block = some block) :
    Balanced sorts (declaration.assembledBlock block) := by
  have wrapper := balanced_wrapper balanced
  have colon : Balanced sorts ":" := balanced_of_plain (by decide)
  -- Behind the block there is the wrapper, and below that the alias unless it is a scalar.
  have after : Balanced sorts declaration.afterBlock := by
    unfold afterBlock
    split
    · exact wrapper
    · exact (wrapper.append Text.balanced_newline).append
        (balanced_selfReference (balanced_fullName balanced))
  refine Text.balanced_joinLines fun line member => ?_
  -- An empty part is left out, and each of the three parts is balanced.
  have part := (List.mem_filter.mp member).1
  simp only [List.mem_cons, List.not_mem_nil, or_false] at part
  rcases part with rfl | rfl | rfl
  · exact colon.append wrapper
  · exact balanced _ (by simp [texts, given])
  · exact after

/-- A block that nothing transforms is balanced, also inside the call of a method. -/
theorem balanced_blockBody (identity : declaration.settings.transformer = .identity)
    {block : String} (given : declaration.block = some block) :
    Balanced sorts (declaration.blockBody block) := by
  have assembled := balanced_assembledBlock balanced given
  simp only [blockBody, identity, BlockTransformer.identity]
  split
  · rename_i method shown
    -- The two parts of the call enclose the block.
    have called := eq_some_of_present shown
    have front : Balanced sorts method := balanced method (by simp [texts, called])
    have call : method ++ "(" ++ declaration.assembledBlock block ++ ")" =
        method ++ ("(" ++ declaration.assembledBlock block ++ ")") := by
      simp only [String.append_assoc]
    rw [call]
    exact front.append (assembled.enclose .round)
  · exact assembled

/-- A body closes the bracket of a union if it is inline content, and else leaves it open. -/
theorem openAfter_body (identity : declaration.settings.transformer = .identity)
    (nest : List Bracket) (rest : List Char) :
    openAfter sorts
        (if declaration.kind = some .union then Bracket.square.enter sorts nest else nest)
        (declaration.body.toList ++ rest) =
      openAfter sorts
        (if declaration.LeavesUnionOpen then Bracket.square.enter sorts nest else nest) rest := by
  have reference := balanced_selfReference (balanced_fullName balanced)
  cases outer : present declaration.block with
  | some block =>
    -- A block is balanced and so is the content in front of it.
    have leaves : declaration.LeavesUnionOpen ↔ declaration.kind = some .union := by
      simp [LeavesUnionOpen, outer]
    have before : Balanced sorts ((present declaration.content).getD "") := by
      cases inner : present declaration.content with
      | none => exact Text.balanced_empty
      | some content => exact balanced content (by simp [texts, eq_some_of_present inner])
    have inside := balanced_blockBody balanced identity (eq_some_of_present outer)
    simp only [body, outer, leaves, Text.openAfter_balanced_append (before.append inside)]
  | none =>
    cases inner : present declaration.content with
    | some content =>
      have leaves : ¬ declaration.LeavesUnionOpen := by simp [LeavesUnionOpen, outer, inner]
      have inline : Balanced sorts content :=
        balanced content (by simp [texts, eq_some_of_present inner])
      by_cases union : declaration.kind = some .union
      · -- The bracket that is open in front of the content is closed behind it.
        have closing : "]".toList = [Bracket.square.closing] := rfl
        simp only [body, outer, inner, leaves, inlineBody, union, if_true, if_false,
          String.toList_append, List.append_assoc, Text.openAfter_balanced_append inline, closing,
          List.cons_append, List.nil_append, Text.openAfter_closing,
          Text.openAfter_balanced_append Text.balanced_newline,
          Text.openAfter_balanced_append reference]
      · have front := (inline.append Text.balanced_empty).append Text.balanced_newline
        have whole := front.append reference
        simp only [body, outer, inner, leaves, inlineBody, union, if_false,
          Text.openAfter_balanced_append whole]
    | none =>
      -- Without a body there is nothing that could close the bracket of a union.
      have leaves : declaration.LeavesUnionOpen ↔ declaration.kind = some .union := by
        simp [LeavesUnionOpen, outer, inner]
      simp only [body, outer, inner, leaves, String.toList_empty, List.nil_append]

end

/-- A declaration that nothing transforms, with balanced texts, is balanced up to one bracket. -/
theorem openAfter_render_eq (identity : declaration.settings.transformer = .identity)
    (balanced : ∀ text ∈ declaration.texts, Balanced sorts text) :
    openAfter sorts [] declaration.render.toList =
      some (if declaration.LeavesUnionOpen then Bracket.square.enter sorts [] else []) := by
  have comment : Balanced sorts (declaration.comment.getD "") := by
    cases given : declaration.comment with
    | none => exact Text.balanced_empty
    | some text => exact balanced text (by simp [texts, given])
  have front := comment.append (balanced_decoratorLine balanced)
  have name := (balanced_keyword declaration.kind).append (balanced_fullName balanced)
  -- Behind the header the bracket of a union is open, and nothing else.
  have header : ∀ rest, openAfter sorts [] ((Kind.suffix declaration.kind).toList ++ rest) =
      openAfter sorts
        (if declaration.kind = some .union then Bracket.square.enter sorts [] else []) rest := by
    intro rest
    by_cases union : declaration.kind = some .union
    · rw [union, openAfter_unionSuffix, if_pos rfl]
    · rw [Text.openAfter_balanced_append (balanced_suffix union), if_neg union]
  -- The text is cut around the suffix of the name, in front of which all is balanced.
  have parts : declaration.render.toList =
      (declaration.comment.getD "" ++ declaration.decoratorLine).toList ++
        ((Kind.keyword declaration.kind ++ declaration.fullName).toList ++
          ((Kind.suffix declaration.kind).toList ++ (declaration.body.toList ++ "\n".toList))) := by
    simp only [render, Declaration.header, String.toList_append, List.append_assoc]
  rw [parts, Text.openAfter_balanced_append front, Text.openAfter_balanced_append name, header,
    openAfter_body balanced identity, ← List.append_nil "\n".toList,
    Text.openAfter_balanced_append Text.balanced_newline]
  rfl

/--
A declaration of balanced texts leaves no bracket open, but for one that opens a union.

That one is left open exactly where a block takes the place of the content of the union, or where
the union has neither. This holds for square and round brackets, and for both nested in each other.
-/
theorem balanced_render_iff (identity : declaration.settings.transformer = .identity)
    (balanced : ∀ text ∈ declaration.texts, Balanced sorts text) :
    openAfter sorts [] declaration.render.toList =
        some (if declaration.LeavesUnionOpen ∧ .square ∈ sorts then [.square] else []) ∧
      (Balanced sorts declaration.render ↔
        ¬ (declaration.LeavesUnionOpen ∧ .square ∈ sorts)) := by
  have left := openAfter_render_eq identity balanced
  -- A square bracket is counted or not, and it is the only one that can be open.
  have nest : (if declaration.LeavesUnionOpen then Bracket.square.enter sorts [] else []) =
      if declaration.LeavesUnionOpen ∧ .square ∈ sorts then [.square] else [] := by
    by_cases leaves : declaration.LeavesUnionOpen <;> simp [leaves, Bracket.enter]
  rw [nest] at left
  refine ⟨left, ?_⟩
  rw [Text.Balanced, left]
  by_cases opened : declaration.LeavesUnionOpen ∧ .square ∈ sorts <;> simp [opened]

/-- A union with inline content is balanced, with brackets of both sorts in its texts. -/
theorem balanced_render_of_inline_union :
    let declaration : Declaration :=
      { kind := some .union, name := "Result", generics := some "[T]", decorator := some "@f()",
        content := some "A, dict[(B), C]" }
    declaration.settings.transformer = .identity ∧
      (∀ text ∈ declaration.texts, Balanced [.square, .round] text) ∧
      Balanced [.square, .round] declaration.render := by
  intro declaration
  have balanced : ∀ text ∈ declaration.texts, Balanced [.square, .round] text := by decide +kernel
  exact ⟨rfl, balanced, (balanced_render_iff rfl balanced).2.mpr (by decide +kernel)⟩

/-- A block takes the place of the bracket that closes a union, whose content precedes the block. -/
theorem union_bracket_left_open :
    let declaration : Declaration :=
      { kind := some .union, name := "R", content := some "A, B", block := some "    pass" }
    declaration.settings.transformer = .identity ∧
      (∀ text ∈ declaration.texts, Balanced [.square] text ∧ Balanced [.round] text) ∧
      declaration.render = "R = Union[A, B:\n    pass\n\n__GQL_CODEGEN_R__ = R\n" ∧
      ¬ Balanced [.square] declaration.render := by
  intro declaration
  exact ⟨rfl, by decide +kernel, by decide +kernel, by decide +kernel⟩

end Declaration

end DeclGen
