import CypherAssembly.Proofs.Desk.Filled
import CypherAssembly.Proofs.Text.Splitting

/-
  Builders and the separators of projections.

  Key theorems include:
    * `Clause.refusal_projections`
    * `Desk.separators_are_exact`

  While a projection is assembled, each expression has a
  separator behind it, and the end of the whole line is
  trimmed.  What is trimmed off is always that one separator
  too many, and never a part of an expression or of the
  keyword.
-/

------------------------------------------------------------
-- Projections
------------------------------------------------------------

namespace CypherAssembly

/- Expressions with texts of their own are not refused. -/
theorem Clause.refusal_projections
    (kind : ProjectionKind)
    (given : List Content)
    (hTexts : ∀ c ∈ given, c.foreign? = none) :
    (projections kind given).contribution.refusal = none := by
  rw [contribution,
    Contribution.joining_of_texts given _ hTexts,
    ofProjections_eq]
  split <;> rfl

namespace Desk

/-
  An open builder takes in a projection of any expressions
  with a line of its keyword and of their texts, empty where
  they fail, with one separator between two of them and with
  none behind the last.  Without separators inside of the
  texts, they can be told apart again.
-/
theorem separators_are_exact
    (d : Desk)
    (name : String)
    (kind : ProjectionKind)
    (given : List Content)
    (hOpen : (d.builder name).isFinished = false)
    (hSome : given ≠ [])
    (hTexts : ∀ c ∈ given, c.foreign? = none) :
    let k : Keyword :=
      match kind with
      | .returned => .returning
      | .carried => .carrying
    let b := d.builder name
    let asked := d.ask name (.add (.ok (.projections kind given)))
    let next := asked.1.builder name
    let texts := (compose k.text given).value
    let operand := ", ".intercalate texts
    asked.2.refusal = none ∧
      texts = given.map Content.textOrEmpty ∧
      next.text =
        b.text ++ (kind.opening ++ operand ++ "\n") ∧
      next.clauses = b.clauses ++ [k] ∧
      ((∀ text ∈ texts, ¬ IsInside ", " text) →
        itemsOf operand = texts) := by
  intro k b asked next texts operand
  have hAccepted :=
    Clause.refusal_projections kind given hTexts
  have hNext := builder_ask_of_accepted d name hAccepted hOpen
  have hComposed : texts = given.map Content.textOrEmpty :=
    value_composeFrom k.text 0 given
  have hOperand :
      operand =
        ", ".intercalate (given.map Content.textOrEmpty) := by
    rw [← hComposed]
  have hFilled :
      (Clause.projections kind given).isRejected = false :=
    List.isEmpty_eq_false_iff.mpr hSome
  refine ⟨?_, hComposed, ?_, ?_, ?_⟩
  · rw [show asked.2 = _ from ask_add_of_open d name _ hOpen]
    exact hAccepted
  · rw [show next.text = _ from congrArg Builder.text hNext,
      Clause.fragment, hFilled, hOperand]
    rfl
  · rw [show next.clauses = _ from
      congrArg Builder.clauses hNext, hFilled]
    cases kind <;> rfl
  · apply itemsOf_intercalate texts
    rw [hComposed]
    exact fun hNone => hSome (List.map_eq_nil_iff.mp hNone)

/- Two expressions with a gap between them. -/
def gappedItems
    (last : String) : List Content :=
  [.fixed (.text "n"), .nothing, .fixed (.text last)]

/-
  The gap has a separator on both sides, and a separator at
  the end of the last expression stays where it is.
-/
theorem separators_of_gappedItems :
    let commands : List Command :=
      [.ask "q" (.add (.ok (.limit (.int 3))))]
    let d := fresh.run commands
    let ask := fun kind given =>
      (d.ask "q" (.add (.ok (.projections kind given)))
        ).1.builder "q"
    (d.builder "q").isFinished = false ∧
      (∀ last, ∀ c ∈ gappedItems last, c.foreign? = none) ∧
      (ask .returned (gappedItems "m, ")).text =
        "LIMIT 3\nRETURN n, , m, \n" ∧
      (ask .carried (gappedItems "m")).text =
        "LIMIT 3\nWITH n, , m\n" ∧
      (ask .carried (gappedItems "m")).clauses =
        [.limit, .carrying] ∧
      itemsOf "n, , m" = ["n", "", "m"] := by
  intro commands d ask
  have hTexts :
      ∀ last, ∀ c ∈ gappedItems last, c.foreign? = none := by
    intro last c hMem
    simp only [gappedItems, List.mem_cons, List.not_mem_nil,
      or_false] at hMem
    rcases hMem with rfl | rfl | rfl <;> rfl
  rcases separators_are_exact d "q" .returned
      (gappedItems "m, ") rfl (List.cons_ne_nil _ _)
      (hTexts "m, ") with
    ⟨_, _, hReturned, _⟩
  rcases separators_are_exact d "q" .carried
      (gappedItems "m") rfl (List.cons_ne_nil _ _)
      (hTexts "m") with
    ⟨_, _, hCarried, hClauses, hItems⟩
  exact
    ⟨rfl, hTexts, hReturned, hCarried, hClauses,
      hItems (by decide +kernel)⟩

end Desk

end CypherAssembly
