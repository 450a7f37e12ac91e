import CypherAssembly.Proofs.Clause.Filled
import CypherAssembly.Proofs.Desk.Frame

/-
  Builders and clauses without holes.

  Key theorems include:
    * `Desk.no_hole_in_clean_clause`

  A builder that is asked for a clause and records nothing
  has taken in one whole line, with something to see in each
  of its pieces.  Whoever leaves a hole in a clause learns
  of it: then at least one fault is recorded.
-/

------------------------------------------------------------
-- Clean Clauses
------------------------------------------------------------

namespace CypherAssembly

namespace Desk

/- What an open builder is after a clause that is accepted. -/
theorem builder_ask_of_accepted
    (d : Desk)
    (name : String)
    {c : Clause}
    (hAccepted : c.contribution.refusal = none)
    (hOpen : (d.builder name).isFinished = false) :
    (d.ask name (.add (.ok c))).1.builder name =
      { d.builder name with
        text := (d.builder name).text ++ c.fragment
        clauses :=
          (d.builder name).clauses ++
            if c.isRejected then [] else c.keywords
        faults := (d.builder name).faults ++ c.faults } := by
  rw [builder_ask_self, ask_add_of_open d name c hOpen,
    Builder.take, c.contribution_text hAccepted,
    c.contribution_clauses hAccepted,
    c.contribution_faults hAccepted]

/- The same for a clause of content that was made for it. -/
theorem builder_ask_of_own
    (d : Desk)
    (name : String)
    {c : Clause}
    (hOwn : c.IsOfItsKind)
    (hOpen : (d.builder name).isFinished = false) :
    (d.ask name (.add (.ok c))).1.builder name =
      { d.builder name with
        text := (d.builder name).text ++ c.fragment
        clauses :=
          (d.builder name).clauses ++
            if c.isRejected then [] else c.keywords
        faults := (d.builder name).faults ++ c.faults } :=
  builder_ask_of_accepted d name hOwn.refusal_eq_none hOpen

/-
  A clause of content that was made for it is not refused by
  an open builder.  If no fault is recorded, the builder has
  one clause more, each argument gave it pieces with something
  to see in them, and the line of the clause is its pieces
  as they are joined.  A hole in the clause is recorded.
-/
theorem no_hole_in_clean_clause
    (commands : List Command)
    (name : String)
    (c : Clause)
    (hOwn : c.IsOfItsKind)
    (hOpen :
      ((fresh.run commands).builder name).isFinished =
        false)
    (hEnds :
      ∀ target,
        c = .remove target →
          ∀ s,
            .text s ∈ target.expressions →
              ¬ ", ".toList <:+ s.toList) :
    let d := fresh.run commands
    let b := d.builder name
    let asked := d.ask name (.add (.ok c))
    let next := asked.1.builder name
    asked.2.refusal = none ∧
      (next.faults = b.faults →
        next.clauses = b.clauses ++ [c.keyword] ∧
          c.arguments ≠ [] ∧
          (∀ a ∈ c.arguments,
            a.pieces ≠ [] ∧
              ∀ piece ∈ a.pieces, isBlank piece = false) ∧
          next.text =
            b.text ++ c.keyword.clause c.operand) ∧
      (c.HasHole →
        ∃ new,
          new ≠ [] ∧ next.faults = b.faults ++ new) := by
  intro d b asked next
  have hAnswer : asked.2 = c.contribution :=
    ask_add_of_open d name c hOpen
  have hNext := builder_ask_of_own d name hOwn hOpen
  have hFaults : next.faults = b.faults ++ c.faults :=
    congrArg Builder.faults hNext
  refine ⟨?_, ?_, ?_⟩
  · rw [hAnswer]
    exact hOwn.refusal_eq_none
  · intro hSame
    have hClean : c.faults = [] := by
      rw [hFaults] at hSame
      exact List.append_right_eq_self.mp hSame
    have hFilled := Clause.isRejected_of_no_faults hClean
    refine ⟨?_, ?_, ?_, ?_⟩
    · have hClauses : next.clauses = _ :=
        congrArg Builder.clauses hNext
      rw [hClauses, hFilled]
      cases c with
      | page number size => exact hOwn.elim
      | call given => exact hOwn.elim
      | _ => rfl
    · intro hNone
      exact
        Clause.not_hasHole_of_clean hOwn hClean (Or.inl hNone)
    · intro a hMem
      exact Clause.pieces_of_clean hOwn hClean hMem
    · have hText : next.text = b.text ++ c.fragment :=
        congrArg Builder.text hNext
      rw [hText, Clause.fragment, hFilled,
        ← Clause.line_of_clean hOwn hClean hEnds]
      rfl
  · intro hHole
    refine ⟨c.faults, ?_, hFaults⟩
    intro hClean
    exact Clause.not_hasHole_of_clean hOwn hClean hHole

/-
  Removing a property and a label adds one line.  With white
  space in the place of the label there is a hole, and it is
  recorded.
-/
theorem removal_with_and_without_hole :
    let commands : List Command :=
      [.ask "q" (.add (.ok (.limit (.int 3))))]
    let filled : Clause :=
      .remove (.targets (.ofTexts ["n.age", "n:Old"]))
    let torn : Clause :=
      .remove (.targets (.ofTexts ["n.age", " \u2003"]))
    let d := fresh.run commands
    let ask := fun c : Clause =>
      (d.ask "q" (.add (.ok c))).1.builder "q"
    filled.IsOfItsKind ∧
      torn.IsOfItsKind ∧
      (ask filled).text =
        "LIMIT 3\nREMOVE n.age, n:Old\n" ∧
      torn.HasHole ∧
      (ask torn).faults ≠ [] := by
  intro commands filled torn d ask
  have hFilled : filled.IsOfItsKind := Or.inr ⟨_, rfl⟩
  have hTorn : torn.IsOfItsKind := Or.inr ⟨_, rfl⟩
  have hEnds :
      ∀ items,
        (∀ s ∈ items, ¬ ", ".toList <:+ s.toList) →
          ∀ target,
            Clause.remove (.targets (.ofTexts items)) =
                .remove target →
              ∀ s,
                .text s ∈ target.expressions →
                  ¬ ", ".toList <:+ s.toList := by
    rintro items hItems _ ⟨⟩ s hMem
    rcases List.mem_map.mp hMem with ⟨t, hIn, ⟨⟩⟩
    exact hItems s hIn
  have hHole : torn.HasHole := by
    right
    refine
      ⟨_, List.mem_cons_self,
        .unstated _ (.text " \u2003") ?_ ?_⟩
    · exact List.mem_cons_of_mem _ List.mem_cons_self
    · rintro ⟨s, ⟨⟩, hSeen⟩
      revert hSeen
      decide
  refine ⟨hFilled, hTorn, ?_, hHole, ?_⟩
  · rcases no_hole_in_clean_clause commands "q" filled hFilled
        rfl (hEnds _ (by decide)) with
      ⟨_, hClean, _⟩
    exact (hClean rfl).2.2.2
  · rcases no_hole_in_clean_clause commands "q" torn hTorn
        rfl (hEnds _ (by decide)) with
      ⟨_, _, hRecorded⟩
    rcases hRecorded hHole with ⟨new, hNew, hFaults⟩
    intro hNone
    rw [show (ask torn).faults = _ from hFaults] at hNone
    exact hNew (List.append_eq_nil_iff.mp hNone).2

end Desk

end CypherAssembly
