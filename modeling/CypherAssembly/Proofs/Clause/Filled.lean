import CypherAssembly.Proofs.Content.Stated

/-
  Clauses without holes.

  Key definitions include:
    * `Content.IsHole`
    * `Content.pieces`
    * `Clause.IsOfItsKind`
    * `Clause.HasHole`
    * `Clause.pieces`
    * `Clause.operand`

  Key theorems include:
    * `Clause.filled_of_clean`
    * `Clause.not_hasHole_of_clean`
    * `Clause.pieces_of_clean`
    * `Clause.line_of_clean`

  A clause is made of pieces of text: one for each of its
  patterns, conditions or projections, and one for each
  element of its targets or its sort order.  Where it meets
  no fault, there is something to see in every piece, and
  the line of the clause is its pieces as they are joined.
-/

------------------------------------------------------------
-- Holes
------------------------------------------------------------

namespace CypherAssembly

namespace Content

/-
  Content that says nothing: none at all, a pattern without
  a shape, an expression that is blank or no text, and lists
  with nothing in them.
-/
inductive IsHole : Content → Prop where
  | nothing : IsHole .nothing
  | unset : IsHole (.pattern .nothing .nothing .nothing)
  | unstated
      (c : Content)
      (v : Value)
      (hMem : v ∈ c.expressions)
      (hNot : ¬ v.IsStated) :
      IsHole c
  | noTargets
      (t : Targets)
      (hEmpty : t.isEmpty = true) :
      IsHole (.targets t)
  | noOrder
      (o : SortOrder)
      (hEmpty : o.isEmpty = true) :
      IsHole (.sortOrder o)

end Content

namespace Clause

/-
  Holds for clauses of content that was made for them.  The
  places of targets and of a sort order can be left empty.
-/
def IsOfItsKind : Clause → Prop
  | patterns _ given => ∀ a ∈ given, a.IsPattern
  | conditions given => ∀ a ∈ given, ∃ c, a = .condition c
  | projections _ given => ∀ a ∈ given, ∃ p, a = .projection p
  | delete _ target =>
      target = .nothing ∨ ∃ t, target = .targets t
  | remove target =>
      target = .nothing ∨ ∃ t, target = .targets t
  | orderBy order =>
      order = .nothing ∨ ∃ o, order = .sortOrder o
  | _ => False

/- A clause without arguments, or with a hole in one. -/
def HasHole
    (c : Clause) : Prop :=
  c.arguments = [] ∨ ∃ a ∈ c.arguments, a.IsHole

variable {c : Clause}

/- Content that was made for a clause is content on offer. -/
theorem IsOfItsKind.isOffered
    (hOwn : c.IsOfItsKind)
    {a : Content}
    (hMem : a ∈ c.arguments) :
    a.IsOffered := by
  cases c with
  | patterns kind given =>
      rcases hOwn a hMem with
        ⟨single, partly, fully, rfl, hSingle, hPartly, hFully⟩
      exact
        .pattern single partly fully hSingle.isOffered
          hPartly.isOffered hFully.isOffered
  | conditions given =>
      rcases hOwn a hMem with ⟨condition, rfl⟩
      exact .condition condition
  | projections kind given =>
      rcases hOwn a hMem with ⟨projection, rfl⟩
      exact .projection projection
  | delete detach target =>
      rw [List.mem_singleton.mp hMem]
      rcases hOwn with rfl | ⟨t, rfl⟩
      · exact .bare .null
      · exact .targets t
  | remove target =>
      rw [List.mem_singleton.mp hMem]
      rcases hOwn with rfl | ⟨t, rfl⟩
      · exact .bare .null
      · exact .targets t
  | orderBy order =>
      rw [List.mem_singleton.mp hMem]
      rcases hOwn with rfl | ⟨o, rfl⟩
      · exact .bare .null
      · exact .sortOrder o
  | _ => cases hMem

/- No such clause is broken off. -/
theorem IsOfItsKind.refusal_eq_none
    (hOwn : c.IsOfItsKind) :
    c.contribution.refusal = none := by
  have hContent : c.isOfContent = true := by
    cases c <;> first | rfl | exact hOwn.elim
  rw [c.refusal_contribution hContent,
    c.breakOff?_eq_none_iff_of_offered fun a hMem =>
      hOwn.isOffered hMem]
  rintro kind given rfl a hMem
  rcases hOwn a hMem with ⟨single, partly, fully, rfl, _⟩
  rfl

/-
  Without faults, arguments are patterns, or content that is
  made of expressions and is not vacant.
-/
theorem filled_of_clean
    {a : Content}
    (hOwn : c.IsOfItsKind)
    (hClean : c.faults = [])
    (hMem : a ∈ c.arguments) :
    (a.IsPattern ∧ c.rendered? a = a.preferred?) ∨
      (a.IsStating ∧
        a.isVacant = false ∧ c.rendered? a = some a) := by
  have hFilled := isRejected_of_no_faults hClean
  cases c with
  | patterns kind given => exact Or.inl ⟨hOwn a hMem, rfl⟩
  | conditions given =>
      rcases hOwn a hMem with ⟨condition, rfl⟩
      exact Or.inr ⟨trivial, rfl, rfl⟩
  | projections kind given =>
      rcases hOwn a hMem with ⟨projection, rfl⟩
      exact Or.inr ⟨trivial, rfl, rfl⟩
  | delete detach target =>
      cases List.mem_singleton.mp hMem
      rcases hOwn with rfl | ⟨t, rfl⟩
      · cases hFilled
      · exact Or.inr ⟨trivial, hFilled, rfl⟩
  | remove target =>
      cases List.mem_singleton.mp hMem
      rcases hOwn with rfl | ⟨t, rfl⟩
      · cases hFilled
      · exact Or.inr ⟨trivial, hFilled, rfl⟩
  | orderBy order =>
      cases List.mem_singleton.mp hMem
      rcases hOwn with rfl | ⟨o, rfl⟩
      · cases hFilled
      · exact Or.inr ⟨trivial, hFilled, rfl⟩
  | _ => cases hMem

/- None of them has a hole. -/
theorem not_hasHole_of_clean
    (hOwn : c.IsOfItsKind)
    (hClean : c.faults = []) :
    ¬ c.HasHole := by
  rintro (hNone | ⟨a, hMem, hHole⟩)
  · have hFilled := isRejected_of_no_faults hClean
    cases c with
    | patterns kind given =>
        cases hNone
        cases hFilled
    | conditions given =>
        cases hNone
        cases hFilled
    | projections kind given =>
        cases hNone
        cases hFilled
    | delete detach target => cases hNone
    | remove target => cases hNone
    | orderBy order => cases hNone
    | _ => exact hOwn
  · rcases exists_render_of_no_faults hClean hMem with
      ⟨shape, text, hShape, hOk⟩
    rcases filled_of_clean hOwn hClean hMem with
      ⟨⟨single, partly, fully, rfl, _⟩, hPreferred⟩ |
        ⟨hStating, hFilled, hSame⟩
    · rw [hPreferred] at hShape
      cases hHole with
      | unset => cases hShape
      | unstated _ v hExpression _ => cases hExpression
    · cases hSame.symm.trans hShape
      cases hHole with
      | nothing => exact hStating
      | unset => exact hStating
      | unstated _ v hExpression hNot =>
          exact hNot (Content.isStated_of_render hOk hExpression).1
      | noTargets t hEmpty =>
          cases hFilled.symm.trans hEmpty
      | noOrder o hEmpty =>
          cases hFilled.symm.trans hEmpty

end Clause

end CypherAssembly

------------------------------------------------------------
-- Pieces
------------------------------------------------------------

namespace CypherAssembly

namespace Content

/- What stands behind the expressions to sort by. -/
def direction : Content → String
  | sortOrder o =>
      if o.descending.isTrue then " DESC" else ""
  | _ => ""

/- The pieces of text that content gives to a clause. -/
def pieces : Content → List String
  | pattern single partly fully =>
      [(pattern single partly fully).patternText]
  | condition c => [(condition c).textOrEmpty]
  | projection p => [(projection p).textOrEmpty]
  | targets t => (targets t).expressions.map Value.plain
  | sortOrder o => (sortOrder o).expressions.map Value.plain
  | _ => []

theorem textOrEmpty_of_render
    {c : Content}
    {text : String}
    (hOk : c.render = .ok text) :
    c.textOrEmpty = text := by
  simp [textOrEmpty, hOk]

/- Content made of expressions gives pieces to be seen. -/
theorem pieces_of_stating
    {c : Content}
    {text : String}
    (hStating : c.IsStating)
    (hFilled : c.isVacant = false)
    (hOk : c.render = .ok text) :
    c.pieces ≠ [] ∧
      ∀ piece ∈ c.pieces, isBlank piece = false := by
  have hSome := expressions_ne_nil hStating hFilled hOk
  have hWhole :
      ∀ piece ∈ [c.textOrEmpty], isBlank piece = false := by
    intro piece hPiece
    rw [List.mem_singleton.mp hPiece, textOrEmpty_of_render hOk]
    exact isBlank_of_render hSome hOk
  have hEach :
      ∀ piece ∈ c.expressions.map Value.plain,
        isBlank piece = false := by
    intro piece hPiece
    rcases List.mem_map.mp hPiece with ⟨v, hMem, rfl⟩
    exact (isStated_of_render hOk hMem).1.isBlank_plain
  have hPieces : c.expressions.map Value.plain ≠ [] := by
    simpa using hSome
  cases c with
  | condition c => exact ⟨List.cons_ne_nil _ _, hWhole⟩
  | projection p => exact ⟨List.cons_ne_nil _ _, hWhole⟩
  | targets t => exact ⟨hPieces, hEach⟩
  | sortOrder o => exact ⟨hPieces, hEach⟩
  | _ => exact hStating.elim

/- A pattern gives the text of its shape. -/
theorem pieces_of_pattern
    {c shape : Content}
    {text : String}
    (hPattern : c.IsPattern)
    (hShape : c.preferred? = some shape)
    (hOk : shape.render = .ok text) :
    c.pieces ≠ [] ∧
      ∀ piece ∈ c.pieces, isBlank piece = false := by
  have hDrawn := hPattern.of_preferred hShape
  rcases hPattern with ⟨single, partly, fully, rfl, _⟩
  refine ⟨List.cons_ne_nil _ _, ?_⟩
  intro piece hPiece
  rw [List.mem_singleton.mp hPiece, patternText, hShape]
  change isBlank shape.textOrEmpty = false
  rw [textOrEmpty_of_render hOk]
  exact hDrawn.isBlank_of_render hOk

end Content

namespace Clause

/- The pieces of text that a clause is made of. -/
def pieces
    (c : Clause) : List String :=
  c.arguments.flatMap Content.pieces

/- The pieces of a clause as the clause joins them. -/
def operand
    (c : Clause) : String :=
  match c with
  | patterns _ _ => String.join c.pieces
  | conditions _ => String.join c.pieces
  | projections _ _ => ", ".intercalate c.pieces
  | delete _ _ => ", ".intercalate c.pieces
  | remove _ => ", ".intercalate c.pieces
  | orderBy order =>
      ", ".intercalate c.pieces ++ order.direction
  | _ => ""

variable {c : Clause}

/- Each argument gives pieces to a clause without faults. -/
theorem pieces_of_clean
    {a : Content}
    (hOwn : c.IsOfItsKind)
    (hClean : c.faults = [])
    (hMem : a ∈ c.arguments) :
    a.pieces ≠ [] ∧
      ∀ piece ∈ a.pieces, isBlank piece = false := by
  rcases exists_render_of_no_faults hClean hMem with
    ⟨shape, text, hShape, hOk⟩
  rcases filled_of_clean hOwn hClean hMem with
    ⟨hPattern, hPreferred⟩ | ⟨hStating, hFilled, hSame⟩
  · rw [hPreferred] at hShape
    exact Content.pieces_of_pattern hPattern hShape hOk
  · cases hSame.symm.trans hShape
    exact Content.pieces_of_stating hStating hFilled hOk

end Clause

end CypherAssembly

------------------------------------------------------------
-- Lines
------------------------------------------------------------

namespace CypherAssembly

namespace Clause

variable {c : Clause}

/- Arguments of one piece each are the pieces of a clause. -/
theorem pieces_eq_map
    {text : Content → String}
    (hEach : ∀ a ∈ c.arguments, a.pieces = [text a]) :
    c.pieces = c.arguments.map text := by
  rw [pieces, List.flatMap_congr hEach, ← List.map_eq_flatMap]

/- Targets that can be rendered are their pieces in a row. -/
theorem textOrEmpty_targets
    {t : Targets}
    {text : String}
    (hOk : (Content.targets t).render = .ok text) :
    (Content.targets t).textOrEmpty =
      ", ".intercalate (Content.targets t).pieces := by
  rw [Content.textOrEmpty_of_render hOk]
  rcases Targets.render_ok hOk with
    ⟨elements, hElements, _, rfl⟩
  rw [Content.pieces, Content.expressions, hElements]
  rfl

/-
  The line of a clause without faults is made of its pieces.
  If the last piece of a removal ended like a separator, too
  much would be trimmed off.
-/
theorem line_of_clean
    (hOwn : c.IsOfItsKind)
    (hClean : c.faults = [])
    (hEnds :
      ∀ target,
        c = .remove target →
          ∀ s,
            .text s ∈ target.expressions →
              ¬ ", ".toList <:+ s.toList) :
    c.line = c.keyword.clause c.operand := by
  have hFilled := isRejected_of_no_faults hClean
  cases c with
  | patterns kind given =>
      have hPieces :
          (patterns kind given).pieces =
            given.map Content.patternText := by
        apply pieces_eq_map
        intro a hMem
        rcases hOwn a hMem with ⟨_, _, _, rfl, _⟩
        rfl
      rw [operand, hPieces]
      cases kind <;> rfl
  | conditions given =>
      have hPieces :
          (conditions given).pieces =
            given.map Content.textOrEmpty := by
        apply pieces_eq_map
        intro a hMem
        rcases hOwn a hMem with ⟨_, rfl⟩
        rfl
      rw [operand, hPieces]
      rfl
  | projections kind given =>
      have hPieces :
          (projections kind given).pieces =
            given.map Content.textOrEmpty := by
        apply pieces_eq_map
        intro a hMem
        rcases hOwn a hMem with ⟨_, rfl⟩
        rfl
      rw [operand, hPieces]
      cases kind <;> rfl
  | delete detach target =>
      rcases hOwn with rfl | ⟨t, rfl⟩
      · cases hFilled
      rcases exists_render_of_no_faults hClean
          List.mem_cons_self with
        ⟨_, text, ⟨⟩, hOk⟩
      rw [line, textOrEmpty_targets hOk, operand, pieces,
        arguments, List.flatMap_singleton]
      cases detach <;> rfl
  | remove target =>
      rcases hOwn with rfl | ⟨t, rfl⟩
      · cases hFilled
      rcases exists_render_of_no_faults hClean
          List.mem_cons_self with
        ⟨_, text, ⟨⟩, hOk⟩
      have hPieces :=
        Content.pieces_of_stating (c := .targets t) trivial
          hFilled hOk
      have hLast :
          ¬ ", ".toList <:+
              (", ".intercalate
                (Content.targets t).pieces).toList := by
        apply not_suffix_intercalate _ hPieces.2
        intro piece hPiece
        rcases List.mem_map.mp hPiece with ⟨v, hMem, rfl⟩
        rcases (Content.isStated_of_render hOk hMem).1 with
          ⟨s, rfl, _⟩
        exact hEnds _ rfl s hMem
      rw [line, textOrEmpty_targets hOk, operand, pieces,
        arguments, List.flatMap_singleton,
        trimSuffix_of_not_suffix hLast]
      rfl
  | orderBy order =>
      rcases hOwn with rfl | ⟨o, rfl⟩
      · cases hFilled
      rcases exists_render_of_no_faults hClean
          List.mem_cons_self with
        ⟨_, text, ⟨⟩, hOk⟩
      rcases SortOrder.render_ok hOk with
        ⟨elements, hElements, _, rfl⟩
      rw [line, Content.textOrEmpty_of_render hOk, operand,
        pieces, arguments, List.flatMap_singleton,
        Content.pieces, Content.expressions, hElements]
      rfl
  | _ => exact hOwn.elim

end Clause

end CypherAssembly
