import Mathlib.Data.List.Forall2
import CypherAssembly.Ledger.Command
import CypherAssembly.Proofs.Pattern.Held

/-
  Composing with a ledger at hand.

  Key definitions include:
    * `Content.entry`
    * `noted`
    * `Content.IsComposed`
    * `Content.IsMoved`

  Key theorems include:
    * `Task.attempt_compose`
    * `Content.isComposed`
    * `moved_noted`
    * `Ledger.composing_is_aligned`

  Each piece of content has one place among the texts and at
  most one fault in the ledger, both in the order of the
  pieces.  What comes in front of a piece matters to the
  position in its fault and to nothing else.
-/

------------------------------------------------------------
-- Entries and Notes
------------------------------------------------------------

namespace CypherAssembly

/- What content gives in its place, empty if it fails. -/
def Content.entry
    (c : Content) : Value :=
  match c.render with
  | .ok text => c.answer text
  | .error _ => .text ""

/- The faults of content, the first piece at `start`. -/
def noted
    (clause : String)
    (start : Nat)
    (given : List Content) : List Fault :=
  (given.zipIdx start).filterMap fun a =>
    a.1.faultAt? (.inClause clause a.2)

theorem noted_cons
    (clause : String)
    (start : Nat)
    (c : Content)
    (rest : List Content) :
    noted clause start (c :: rest) =
      (c.faultAt? (.inClause clause start)).toList ++
        noted clause (start + 1) rest := by
  unfold noted
  rw [List.zipIdx_cons, List.filterMap_cons]
  cases c.faultAt? (.inClause clause start) <;> rfl

theorem noted_append
    (clause : String)
    (start : Nat)
    (first second : List Content) :
    noted clause start (first ++ second) =
      noted clause start first ++
        noted clause (start + first.length) second := by
  rw [noted, List.zipIdx_append, List.filterMap_append]
  rfl

/- A value instead of a text is there without a fault. -/
theorem Refilled.exists_render_of_foreign
    {r : Refilled}
    {v : Value}
    (hForeign : r.foreign? = some v) :
    ∃ text, r.render = .ok text := by
  have hRendered :
      r.fields.get? "render" = none →
        (r.kind = .fixed ∨ r.kind = .described) →
          (∃ w, r.fields.get? "text" = some w) →
            ∃ text, r.render = .ok text := by
    rintro hPlain hKind ⟨w, hText⟩
    have hField := field_of_get? hText
    refine ⟨w.plain, ?_⟩
    rw [render, hPlain]
    unfold rendered
    rcases hKind with hFixed | hDescribed
    · simp only [hFixed, hField]
      rfl
    · simp only [hDescribed, hField]
      rfl
  unfold foreign? at hForeign
  split at hForeign
  · rename_i hKind hPlain
    rcases Option.bind_eq_some_iff.mp hForeign with
      ⟨w, hText, _⟩
    exact hRendered hPlain (Or.inl hKind) ⟨w, hText⟩
  · rename_i hKind hPlain
    rcases Option.bind_eq_some_iff.mp hForeign with
      ⟨w, hText, _⟩
    exact hRendered hPlain (Or.inr hKind) ⟨w, hText⟩
  · cases hForeign

namespace Content

/- Content that fails has no value instead of a text. -/
theorem foreign?_of_error
    {c : Content}
    {f : Fault}
    (hFails : c.render = .error f) :
    c.foreign? = none := by
  induction c with
  | fixed text => cases hFails
  | described text isEmpty => cases hFails
  | onlyNode node ih => exact ih hFails
  | marked content marks ih =>
      unfold render at hFails
      unfold foreign?
      split at hFails
      · rfl
      · exact ih hFails
  | refilled r =>
      change r.render = .error f at hFails
      change r.foreign? = none
      cases hForeign : r.foreign? with
      | none => rfl
      | some v =>
          rcases r.exists_render_of_foreign hForeign with
            ⟨text, hOk⟩
          rw [hFails] at hOk
          cases hOk
  | _ => rfl

/- Whether it fails or not, content gives its entry. -/
theorem answer_textOrEmpty
    (c : Content) :
    c.answer c.textOrEmpty = c.entry := by
  unfold textOrEmpty entry
  cases hRender : c.render with
  | ok text => rfl
  | error f =>
      simp [answer, foreign?_of_error hRender]

end Content

end CypherAssembly

------------------------------------------------------------
-- Composed Content
------------------------------------------------------------

namespace CypherAssembly

namespace Content

/-
  What becomes of content at a position in a clause: a value
  in its place and what is recorded for it.  A fault of this
  library is recorded as it is raised.  What comes from
  outside keeps its message and is recorded as the cause of
  a fault that knows the clause, the position and the kind
  of the content.
-/
inductive IsComposed
    (clause : String)
    (position : Int)
    (c : Content) : Value → Option Fault → Prop where
  | rendered
      (text : String)
      (hText : c.render = .ok text) :
      IsComposed clause position c (c.answer text) none
  | raised
      (f : Fault)
      (hFails : c.render = .error f)
      (hKind : f.kind? ≠ none) :
      IsComposed clause position c (.text "") (some f)
  | wrapped
      (problem : Problem)
      (f : Fault)
      (hFails : c.render = .error (.outside problem))
      (hKind : f.kind? = some .renderFailed)
      (hMessage : f.message = problem.message)
      (hCause : f.cause? = some problem)
      (hPlace :
        f.details?.bind (·.placement) =
          some
            { clause := some clause
              position := some position
              contentKind := some c.kind.name }) :
      IsComposed clause position c (.text "") (some f)

theorem isComposed
    (clause : String)
    (position : Int)
    (c : Content) :
    c.IsComposed clause position c.entry
      (c.faultAt? (.inClause clause position)) := by
  rcases c.faultAt?_cases with
    ⟨text, hText, hNone⟩ | ⟨problem, hFails, hFault⟩ |
      ⟨f, hFails, hKind, hFault⟩
  · rw [entry, hText, hNone]
    exact .rendered text hText
  · rw [entry, hFails, hFault]
    exact .wrapped problem _ hFails rfl rfl rfl rfl
  · rw [entry, hFails, hFault]
    exact .raised f hFails hKind

/-
  The fault of content before and behind `n` other pieces.
  Only a fault that was made for its place knows of them.
-/
inductive IsMoved
    (n : Nat)
    (c : Content) : Fault → Fault → Prop where
  | raised
      (f : Fault)
      (hFails : c.render = .error f)
      (hKind : f.kind? ≠ none) :
      IsMoved n c f f
  | wrapped
      (problem : Problem)
      (clause : String)
      (position : Nat)
      (hFails : c.render = .error (.outside problem)) :
      IsMoved n c
        (.wrapped problem c.kind
          (.inClause clause position))
        (.wrapped problem c.kind
          (.inClause clause ((n + position : Nat) : Int)))

/- Content either has no fault in both places or a moved one. -/
theorem isMoved
    (n : Nat)
    (clause : String)
    (position : Nat)
    (c : Content) :
    List.Forall₂ (c.IsMoved n)
      (c.faultAt? (.inClause clause position)).toList
      (c.faultAt?
        (.inClause clause
          ((n + position : Nat) : Int))).toList := by
  rcases c.faultAt?_cases with
    ⟨text, _, hNone⟩ | ⟨problem, hFails, hFault⟩ |
      ⟨f, hFails, hKind, hFault⟩
  · rw [hNone, hNone]
    exact .nil
  · rw [hFault, hFault]
    exact .cons (.wrapped problem clause position hFails) .nil
  · rw [hFault, hFault]
    exact .cons (.raised f hFails hKind) .nil

end Content

/- The faults of content behind `n` other pieces are moved. -/
theorem moved_noted
    (n : Nat)
    (clause : String)
    (start : Nat)
    (given : List Content) :
    List.Forall₂
      (fun f g => ∃ c ∈ given, c.IsMoved n f g)
      (noted clause start given)
      (noted clause (n + start) given) := by
  induction given generalizing start with
  | nil => exact .nil
  | cons c rest ih =>
      rw [noted_cons, noted_cons]
      apply List.rel_append
      · apply (c.isMoved n clause start).imp
        intro f g hMoved
        exact ⟨c, List.mem_cons_self, hMoved⟩
      · apply (ih (start + 1)).imp
        rintro f g ⟨d, hMem, hMoved⟩
        exact ⟨d, List.mem_cons_of_mem c hMem, hMoved⟩

end CypherAssembly

------------------------------------------------------------
-- Composing Tasks
------------------------------------------------------------

namespace CypherAssembly

/- Content at a known spot is rendered as it is elsewhere. -/
theorem Attempt.inOrder_renderOne
    (clause : String)
    (start : Int)
    (given : List Content) :
    inOrder
        (fun i c =>
          renderOne (Spot.checked (.text clause) (.int i)) c)
        start given =
      ofGathered (composeFrom clause start given) := by
  induction given generalizing start with
  | nil => rfl
  | cons c rest ih =>
      have hFirst :
          renderOne (Spot.checked (.text clause) (.int start))
              c =
            ofGathered
              (CypherAssembly.renderOne
                (.inClause clause start) c) := rfl
      unfold inOrder
      rw [hFirst, ih]
      rfl

/- Composing gives all entries and meets all faults. -/
theorem Task.attempt_compose
    (clause : String)
    (given : List Content) :
    (Task.compose (.text clause) given).attempt =
      { outcome := .ok (.list (given.map Content.entry))
        faults := noted clause 0 given } := by
  have hComposed :
      Attempt.compose (.text clause) given =
        .ofGathered (composeFrom clause 0 given) :=
    Attempt.inOrder_renderOne clause 0 given
  have hEntries :
      given.zipWith Content.answer
          (given.map Content.textOrEmpty) =
        given.map Content.entry := by
    rw [List.zipWith_map_right, List.zipWith_self]
    exact List.map_congr_left fun c _ => c.answer_textOrEmpty
  have hFaults := faults_composeFrom clause 0 given
  rw [attempt, hComposed]
  unfold Attempt.map Attempt.ofGathered
  simp only [Except.map, value_composeFrom, hEntries]
  congr 1

namespace Ledger

/- What is composed with a ledger at hand, and what it notes. -/
theorem work_compose
    (l : Ledger)
    (clause : String)
    (given : List Content) :
    (l.work (.compose (.text clause) given)).2.outcome =
        .ok (.list (given.map Content.entry)) ∧
      (l.work (.compose (.text clause) given)).1.faults =
        l.faults ++ noted clause 0 given := by
  unfold work
  rw [Task.attempt_compose]
  exact ⟨rfl, rfl⟩

/-
  Texts, content and faults stay aligned.  Composing gives
  an entry for each piece and adds to the ledger, behind
  what it holds already, the faults of the pieces that fail,
  in order.  Composed in two parts, the pieces have the same
  entries and the same faults, but a fault that was made for
  its place in the second part does not count the first.
-/
theorem composing_is_aligned
    (l : Ledger)
    (clause : String) :
    (∀ given,
      let done := l.work (.compose (.text clause) given)
      done.2.outcome =
          .ok (.list (given.map Content.entry)) ∧
        done.1.faults = l.faults ++ noted clause 0 given) ∧
    (∀ (position : Int) (c : Content),
      c.IsComposed clause position c.entry
        (c.faultAt? (.inClause clause position))) ∧
    (∀ first second,
      let front := l.work (.compose (.text clause) first)
      let back :=
        front.1.work (.compose (.text clause) second)
      let whole :=
        l.work (.compose (.text clause) (first ++ second))
      (∃ vs ws,
        front.2.outcome = .ok (.list vs) ∧
        back.2.outcome = .ok (.list ws) ∧
        whole.2.outcome = .ok (.list (vs ++ ws))) ∧
      (∃ unmoved moved,
        back.1.faults = front.1.faults ++ unmoved ∧
        whole.1.faults = front.1.faults ++ moved ∧
        List.Forall₂
          (fun f g => ∃ c ∈ second, c.IsMoved first.length f g)
          unmoved moved)) := by
  refine ⟨l.work_compose clause,
    Content.isComposed clause, ?_⟩
  intro first second front back whole
  rcases l.work_compose clause first with
    ⟨hFront, hFrontFaults⟩
  rcases front.1.work_compose clause second with
    ⟨hBack, hBackFaults⟩
  rcases l.work_compose clause (first ++ second) with
    ⟨hWhole, hWholeFaults⟩
  refine ⟨⟨_, _, hFront, hBack, ?_⟩,
    noted clause 0 second,
    noted clause first.length second,
    hBackFaults, ?_,
    moved_noted first.length clause 0 second⟩
  · rw [← List.map_append]
    exact hWhole
  · rw [hWholeFaults, hFrontFaults, noted_append,
      Nat.zero_add, List.append_assoc]

end Ledger

end CypherAssembly
