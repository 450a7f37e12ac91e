import CypherAssembly.Proofs.Clause.Offered
import CypherAssembly.Proofs.Desk.Calls
import CypherAssembly.Proofs.Desk.Frame

/-
  Calls that are broken off.

  Key definitions include:
    * `Request.reachedFaults`
    * `Request.leftText`
    * `Request.leftClauses`

  Key theorems include:
    * `Desk.clause_goes_on_iff`
    * `Desk.refused_cases`
    * `Desk.builder_after_breaking_off`

  Content on offer breaks a call off in one way only: it is
  no pattern, and patterns are called for.  What was met by
  then stays: the faults of all arguments in front of the one
  that broke the call off.  A call that is broken off has
  added no text and no clause, unless it is for a first page
  of too many rows.
-/

------------------------------------------------------------
-- Calls That Go On
------------------------------------------------------------

namespace CypherAssembly

/- Content on offer is resolved if it is a pattern. -/
theorem exists_resolve_ok_iff
    (spot : Spot)
    (c : Content)
    (hOffered : c.IsOffered) :
    (∃ text, (resolve (.ok spot) c).outcome = .ok text) ↔
      c.kind = .pattern := by
  rw [← hOffered.patternRefusal?_eq_none_iff]
  constructor
  · rintro ⟨text, hText⟩
    cases hRefusal : c.patternRefusal? with
    | none => rfl
    | some r =>
        rw [resolve_refused _ c r hRefusal] at hText
        cases hText
  · exact exists_resolve_ok spot c

/- Several of them are resolved if all are patterns. -/
theorem exists_resolveAll_ok_iff
    (clause : Option String)
    (given : List Content)
    (hOffered : ∀ a ∈ given, a.IsOffered) :
    (∃ text,
        (resolveAll (.ok clause) given).outcome = .ok text) ↔
      ∀ a ∈ given, a.kind = .pattern := by
  have hRefused := resolveAll_error_iff clause given
  have hNone :
      given.findSome? Content.patternRefusal? = none ↔
        ∀ a ∈ given, a.kind = .pattern := by
    rw [List.findSome?_eq_none_iff]
    apply forall₂_congr
    intro a hMem
    exact (hOffered a hMem).patternRefusal?_eq_none_iff
  rw [← hNone, Option.eq_none_iff_forall_ne_some]
  constructor
  · rintro ⟨text, hText⟩ r hFirst
    rw [(hRefused r).mpr hFirst] at hText
    cases hText
  · intro hFirst
    cases hOutcome :
        (resolveAll (.ok clause) given).outcome with
    | ok text => exact ⟨text, rfl⟩
    | error r =>
        have hSome := (hRefused r).mp hOutcome
        exact absurd hSome (hFirst r)

namespace Desk

/-
  A call of an open builder for a clause made of content is
  broken off for reasons that are known beforehand.  If there
  are none, the faults of the clause are recorded.  Content
  on offer is a reason only where patterns are called for
  and it is none, which is when it cannot be resolved.
-/
theorem clause_goes_on_iff
    (commands : List Command)
    (name : String)
    (c : Clause)
    (hContent : c.isOfContent = true)
    (hOpen :
      ((fresh.run commands).builder name).isFinished =
        false) :
    let d := fresh.run commands
    let asked := d.ask name (.add (.ok c))
    asked.2.refusal = c.breakOff? ∧
      (asked.2.refusal = none →
        (asked.1.builder name).faults =
          (d.builder name).faults ++ c.faults) ∧
      ((∀ a ∈ c.arguments, a.IsOffered) →
        (asked.2.refusal = none ↔
            ∀ kind given,
              c = .patterns kind given →
                ∀ a ∈ given, a.kind = .pattern) ∧
          (∀ spot,
            ∀ a ∈ c.arguments,
              (∃ text,
                  (resolve (.ok spot) a).outcome =
                    .ok text) ↔
                a.kind = .pattern) ∧
          ∀ clause,
            (∃ text,
                (resolveAll (.ok clause)
                    c.arguments).outcome = .ok text) ↔
              ∀ a ∈ c.arguments, a.kind = .pattern) := by
  intro d asked
  have hAnswer : asked.2 = c.contribution :=
    ask_add_of_open d name c hOpen
  have hRefusal : asked.2.refusal = c.breakOff? := by
    rw [hAnswer, c.refusal_contribution hContent]
  refine ⟨hRefusal, ?_, ?_⟩
  · intro hAccepted
    rw [hAnswer] at hAccepted
    rw [builder_ask_self]
    change _ ++ asked.2.faults = _
    rw [hAnswer, c.contribution_faults hAccepted]
  · intro hOffered
    refine ⟨?_, ?_, ?_⟩
    · rw [hRefusal]
      exact c.breakOff?_eq_none_iff_of_offered hOffered
    · intro spot a hMem
      exact exists_resolve_ok_iff spot a (hOffered a hMem)
    · intro clause
      exact exists_resolveAll_ok_iff clause _ hOffered

/-
  Returning nothing, something else and content that fails
  goes on, and what is wrong is recorded.
-/
theorem returning_goes_on :
    let c : Clause :=
      .projections .returned
        [.nothing, .fixed (.text "n"),
          .failing (.outside (.failure "gone"))]
    let asked := fresh.ask "q" (.add (.ok c))
    asked.2.refusal = none ∧
      (asked.1.builder "q").faults =
        [.wrapped (.lacking (.value .null) "render")
            (.value .null) (.inClause "RETURN" 0),
          .wrapped (.failure "gone") .failing
            (.inClause "RETURN" 2)] := by
  intro c asked
  have hOffered : ∀ a ∈ c.arguments, a.IsOffered := by
    simp only [c, Clause.arguments, List.forall_mem_cons]
    refine ⟨.bare .null, .fixed "n", .failing _, ?_⟩
    simp
  rcases clause_goes_on_iff [] "q" c rfl rfl with
    ⟨_, hFaults, hEach⟩
  rcases hEach hOffered with ⟨hGoesOn, _, _⟩
  have hAccepted : asked.2.refusal = none := by
    apply hGoesOn.mpr
    intro kind given hEq
    simp [c] at hEq
  exact ⟨hAccepted, hFaults hAccepted⟩

/-
  Nothing is no pattern.  Matching it is broken off, nothing
  is recorded, and it cannot be resolved in any way.
-/
theorem matching_nothing_breaks_off :
    let refusal : Refusal :=
      .ofProblem (.lacking (.value .null) "only_node")
    let asked :=
      fresh.ask "q"
        (.add (.ok (.patterns .matching [.nothing])))
    Content.nothing.IsOffered ∧
      asked.2.refusal = some refusal ∧
      (asked.1.builder "q").faults = [] ∧
      (resolve (.ok (.inClause "MATCH" 0))
          .nothing).outcome = .error refusal ∧
      (resolveAll (.ok (some "MATCH"))
          [.nothing]).outcome = .error refusal := by
  refine ⟨?_, ?_, ?_, ?_, ?_⟩
  · exact .bare .null
  · rfl
  · rfl
  · rfl
  · rfl

end Desk

end CypherAssembly

------------------------------------------------------------
-- Builders After Breaking Off
------------------------------------------------------------

namespace CypherAssembly

/- The faults of what is reached before breaking off. -/
def Request.reachedFaults : Request → List Fault
  | .add (.ok c) => c.reachedFaults
  | .add (.error _) => []
  | .embed _ => []

/- The text that is left of a request that is broken off. -/
def Request.leftText : Request → String
  | .add (.ok c) => c.leftText
  | .add (.error _) => ""
  | .embed _ => ""

/- The clauses that stand in that text. -/
def Request.leftClauses : Request → List Keyword
  | .add (.ok c) => c.leftClauses
  | .add (.error _) => []
  | .embed _ => []

/- Where no clause is left, there is no text of one. -/
theorem Request.leftText_of_no_clauses
    (r : Request)
    (hNone : r.leftClauses = []) :
    r.leftText = "" := by
  rcases r with (_ | c) | _
  · rfl
  · simp only [leftClauses, Clause.leftClauses] at hNone
    simp only [leftText, Clause.leftText]
    split at hNone
    · cases hNone
    · rename_i hNot
      rw [if_neg hNot]
  · rfl

/- What is left is the line that skips no rows. -/
theorem Request.exists_page_of_left
    (r : Request)
    (hLeft : r.leftClauses ≠ []) :
    r.leftClauses = [.skip] ∧ r.leftText = "SKIP 0\n" ∧
      ∃ number size,
        r = .add (.ok (.page number size)) ∧
          number.amount? = some (.whole 1) ∧
            size.isTooLong = true := by
  rcases r with (_ | c) | _
  · exact absurd rfl hLeft
  · have hHalved : c.isHalved = true := by
      by_contra hNot
      exact hLeft (if_neg hNot)
    refine ⟨if_pos hHalved, if_pos hHalved, ?_⟩
    cases c with
    | page number size =>
        simp only [Clause.isHalved, Bool.and_eq_true,
          beq_iff_eq] at hHalved
        exact
          ⟨number, size, rfl, hHalved.1, hHalved.2.2⟩
    | _ => cases hHalved
  · exact absurd rfl hLeft

namespace Desk

/- An open builder refuses a clause or nothing at all. -/
theorem refused_cases
    (d : Desk)
    (name : String)
    (r : Request)
    (refusal : Refusal)
    (hOpen : (d.builder name).isFinished = false)
    (hRefused : (d.ask name r).2.refusal = some refusal) :
    r = .add (.error refusal) ∨
      ∃ c,
        r = .add (.ok c) ∧
          (d.ask name r).2 = c.contribution := by
  rcases r with (other | c) | inner
  · left
    cases hRefused
    rfl
  · right
    exact ⟨c, rfl, ask_add_of_open d name c hOpen⟩
  · by_cases hSelf : inner = name
    · subst hSelf
      rw [ask_embed_self d inner hOpen] at hRefused
      cases hRefused
    · rw [ask_embed_of_open d name inner hOpen hSelf]
        at hRefused
      cases hRefused

/- What an open builder refuses leaves its traces. -/
theorem answer_of_broken_off
    (d : Desk)
    (name : String)
    (r : Request)
    (refusal : Refusal)
    (hOpen : (d.builder name).isFinished = false)
    (hRefused : (d.ask name r).2.refusal = some refusal) :
    (d.ask name r).2 =
      { text := r.leftText
        clauses := r.leftClauses
        faults := r.reachedFaults
        refusal := some refusal } := by
  rcases refused_cases d name r refusal hOpen hRefused with
    rfl | ⟨c, rfl, hAnswer⟩
  · rfl
  · rw [hAnswer] at hRefused ⊢
    have hFaults := c.faults_of_refused refusal hRefused
    rcases c.contribution_of_refused refusal hRefused with
      ⟨hText, hClauses, _⟩
    simp only [Request.leftText, Request.leftClauses,
      Request.reachedFaults, ← hText, ← hClauses, ← hFaults,
      ← hRefused]

/-
  A call of an open builder that is broken off leaves all
  other builders as they were.  The faults of the arguments
  that were reached are there.  Text and clauses are what
  they were, but for the first line of a page whose second
  line cannot be written.
-/
theorem builder_after_breaking_off
    (commands : List Command)
    (name : String)
    (call : Call)
    (r : Refusal)
    (hOpen :
      ((fresh.run commands).builder name).isFinished = false)
    (hRefused :
      ((fresh.run commands).ask name
          call.request).2.refusal = some r) :
    let d := fresh.run commands
    let b := d.builder name
    let next := (d.ask name call.request).1
    let noted := call.request.reachedFaults
    let left := call.request.leftClauses
    next.builder name =
        { b with
          text := b.text ++ call.request.leftText
          clauses := b.clauses ++ left
          faults := b.faults ++ noted } ∧
      (next.builder name = b ↔ left = [] ∧ noted = []) ∧
      (left ≠ [] →
        left = [.skip] ∧ call.request.leftText = "SKIP 0\n" ∧
          ∃ number size,
            call.request = .add (.ok (.page number size)) ∧
              number.amount? = some (.whole 1) ∧
                size.isTooLong = true) ∧
      ∀ other,
        other ≠ name →
          next.builder other = d.builder other := by
  intro d b next noted left
  have hAnswer :=
    answer_of_broken_off d name call.request r hOpen hRefused
  have hNext :
      next.builder name =
        { b with
          text := b.text ++ call.request.leftText
          clauses := b.clauses ++ left
          faults := b.faults ++ noted } := by
    change (d.ask name call.request).1.builder name = _
    rw [builder_ask_self, hAnswer]
    rfl
  refine ⟨hNext, ?_, ?_, ?_⟩
  · rw [hNext]
    constructor
    · intro hSame
      have hClauses : b.clauses ++ left = b.clauses :=
        congrArg Builder.clauses hSame
      have hFaults : b.faults ++ noted = b.faults :=
        congrArg Builder.faults hSame
      exact
        ⟨List.append_right_eq_self.mp hClauses,
          List.append_right_eq_self.mp hFaults⟩
    · rintro ⟨hNoClause, hNoFault⟩
      rw [hNoClause, hNoFault,
        call.request.leftText_of_no_clauses hNoClause,
        List.append_nil, List.append_nil,
        String.append_empty]
  · exact call.request.exists_page_of_left
  · intro other hNe
    apply builder_ask_of_ne d name other _ hNe
    rintro ⟨hEmbed, _⟩
    rcases refused_cases d name call.request r hOpen hRefused
      with hRequest | ⟨c, hRequest, _⟩
    · rw [hEmbed] at hRequest
      cases hRequest
    · rw [hEmbed] at hRequest
      cases hRequest

/-
  A node with a name that is none, one that is fine, and a
  condition, which breaks the call off.  What was there is
  still there, and the name was recorded.
-/
theorem builder_after_matching_condition :
    let commands : List Command :=
      [.ask "q" (.add (.ok (.limit (.int 3))))]
    let call : Call :=
      .clause (.patterns .matching
        [.pattern (.node (.ofParts "a b" [] []))
            .nothing .nothing,
          .pattern (.node (.ofParts "n" [] []))
            .nothing .nothing,
          .condition (.ofParts "n.age > 30" none false)])
    let d := fresh.run commands
    let r : Refusal :=
      .ofProblem (.lacking .condition "only_node")
    (d.ask "q" call.request).2.refusal = some r ∧
      (d.ask "q" call.request).1.builder "q" =
        { text := "LIMIT 3\n"
          clauses := [.limit]
          faults := [.badName .nodeVariable "a b"]
          isFinished := false } := by
  intro commands call d r
  have hRefused :
      (d.ask "q" call.request).2.refusal = some r := rfl
  have hNext :=
    (builder_after_breaking_off commands "q" call r rfl
      hRefused).1
  exact ⟨hRefused, hNext⟩

/-
  A pattern without a shape and then nothing: the builder of
  a call that is broken off is not what it was.
-/
theorem breaking_off_leaves_fault :
    let call : Call :=
      .clause (.patterns .matching
        [.pattern .nothing .nothing .nothing, .nothing])
    let r : Refusal :=
      .ofProblem (.lacking (.value .null) "only_node")
    let asked := fresh.ask "q" call.request
    asked.2.refusal = some r ∧
      asked.1.builder "q" ≠ fresh.builder "q" ∧
      (asked.1.builder "q").faults =
        [.unsetPattern (.inClause "MATCH" 0)] := by
  intro call r asked
  have hFaults :
      (asked.1.builder "q").faults =
        [.unsetPattern (.inClause "MATCH" 0)] := rfl
  refine ⟨?_, ?_, hFaults⟩
  · rfl
  · intro hSame
    rw [hSame] at hFaults
    cases hFaults

end Desk

end CypherAssembly
