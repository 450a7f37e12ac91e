import Mathlib.Data.List.ReduceOption
import CypherAssembly.Proofs.Desk.Forwarding
import CypherAssembly.Proofs.Desk.Text

/-
  The faults of a query after a run.

  Key definitions include:
    * `Request.keyword?`
    * `Request.faults`
    * `Request.Notes`

  Key theorems include:
    * `Desk.faults_answer`
    * `Desk.faults_of_accepted_run`

  Every request has faults of its own, which depend on the
  request and on the query that it embeds, if any.  As long
  as no request is refused, the faults of a query are those
  of its requests one behind the other.
-/

------------------------------------------------------------
-- Faults of Requests
------------------------------------------------------------

namespace CypherAssembly

namespace Request

/- The keyword that a request is known by, if it has one. -/
def keyword? : Request → Option Keyword
  | add (.ok c) => some c.keyword
  | add (.error _) => none
  | embed _ => some .call

/-
  The faults that are met with a request to a builder.  An
  embedding meets the bundle of the embedded query.
-/
def faults
    (name : String)
    (bundle : String → Option Fault) : Request → List Fault
  | add (.ok c) => c.faults
  | add (.error _) => []
  | embed inner =>
      if inner = name then [.selfEmbedding]
      else (bundle inner).toList

/-
  What a builder notes when it is asked for something: one
  fault with the clause if there is nothing to say, else one
  fault for each argument that fails, or the bundle of the
  embedded query.
-/
inductive Notes
    (name : String)
    (bundle : String → Option Fault) :
    Request → List Fault → Prop where
  | guarded
      (r : Request)
      (k : Keyword)
      (f : Fault)
      (hRejected : r.isRejected name = true)
      (hKeyword : r.keyword? = some k)
      (hSpot : f.spot? = some (.ofClause k)) :
      Notes name bundle r [f]
  | assembled
      (c : Clause)
      (noted : List (Option Fault))
      (hSome : c.isRejected = false)
      (hLength : noted.length = c.arguments.length)
      (hEach :
        ∀ i argument fault?,
          c.arguments[i]? = some argument →
            noted[i]? = some fault? →
              c.Notes i argument fault?) :
      Notes name bundle (.add (.ok c)) noted.reduceOption
  | forwarded
      (inner : String)
      (hNe : inner ≠ name) :
      Notes name bundle (.embed inner) (bundle inner).toList

end Request

/- A clause notes its faults argument by argument. -/
theorem Clause.notes_faults
    (c : Clause)
    (name : String)
    (bundle : String → Option Fault) :
    Request.Notes name bundle (.add (.ok c)) c.faults := by
  unfold Clause.faults
  split
  · rename_i hRejected
    exact
      .guarded _ c.keyword c.guardFault hRejected rfl
        c.spot?_guardFault
  · rename_i hSome
    -- with a place for every argument, also for those rendered
    let noted :=
      c.arguments.zipIdx.map fun a =>
        c.argumentFault? a.2 a.1
    have hNoted :
        noted.reduceOption = c.argumentFaults := by
      simp [noted, Clause.argumentFaults,
        List.reduceOption, List.filterMap_map]
    rw [← hNoted]
    refine
      .assembled c noted (Bool.eq_false_iff.mpr hSome)
        (by simp [noted]) ?_
    intro i argument fault? hArgument hFault
    simp only [noted, List.getElem?_map,
      List.getElem?_zipIdx, hArgument, Option.map_some,
      Nat.zero_add, Option.some.injEq] at hFault
    rw [← hFault]
    exact c.notes_argumentFault? i argument

/- So does every request that was made. -/
theorem Request.notes_faults
    (name : String)
    (bundle : String → Option Fault)
    (r : Request)
    (hMade : ∀ refusal, r ≠ .add (.error refusal)) :
    r.Notes name bundle (r.faults name bundle) := by
  rcases r with (refusal | c) | inner
  · exact absurd rfl (hMade refusal)
  · exact c.notes_faults name bundle
  · simp only [faults]
    split
    · rename_i hSelf
      refine .guarded _ .call .selfEmbedding ?_ rfl rfl
      simp [isRejected, hSelf]
    · rename_i hNe
      exact .forwarded inner hNe

/- A request that is rejected has a single fault. -/
theorem Request.length_faults_of_rejected
    (name : String)
    (bundle : String → Option Fault)
    (r : Request)
    (hRejected : r.isRejected name = true) :
    (r.faults name bundle).length = 1 := by
  rcases r with (refusal | c) | inner
  · cases hRejected
  · change c.isRejected = true at hRejected
    simp [faults, Clause.faults, hRejected]
  · have hSelf : inner = name := by
      simpa [isRejected] using hRejected
    simp [faults, hSelf]

end CypherAssembly

------------------------------------------------------------
-- Accepted Requests
------------------------------------------------------------

namespace CypherAssembly

namespace Desk

/-
  A request that is not refused meets its own faults.  It
  does not matter which desk it meets.
-/
theorem faults_answer
    (name : String)
    (commands : List Command)
    (a : Asked)
    (hMem : a ∈ fresh.asked name commands)
    (hAccepted : (a.answer name).refusal = none) :
    (a.answer name).faults =
      a.request.faults name fun inner =>
        ((fresh.run commands).query inner).2 := by
  rcases answer_cases commands name a hMem hAccepted with
    ⟨c, hRequest, hClause, hAnswer⟩ |
      ⟨hRequest, hAnswer⟩ |
        ⟨inner, hNe, hRequest, _, hAnswer⟩
  · rw [hAnswer, hRequest]
    exact c.contribution_faults hClause
  · rw [hAnswer, hRequest, Request.faults, if_pos rfl]
    rfl
  · rw [hAnswer, hRequest, Request.faults, if_neg hNe]
    rfl

/- A rejected request adds neither text nor clauses. -/
theorem answer_of_rejected
    (name : String)
    (commands : List Command)
    (a : Asked)
    (hMem : a ∈ fresh.asked name commands)
    (hAccepted : (a.answer name).refusal = none)
    (hRejected : a.request.isRejected name = true) :
    (a.answer name).text = "" ∧
      (a.answer name).clauses = [] := by
  rcases answer_cases commands name a hMem hAccepted with
    ⟨c, hRequest, hClause, hAnswer⟩ |
      ⟨hRequest, hAnswer⟩ |
        ⟨inner, hNe, hRequest, _, _⟩
  · rw [hRequest] at hRejected
    change c.isRejected = true at hRejected
    rw [hAnswer, c.contribution_eq hClause, if_pos hRejected]
    exact ⟨rfl, rfl⟩
  · rw [hAnswer]
    exact ⟨rfl, rfl⟩
  · rw [hRequest] at hRejected
    simp [Request.isRejected, hNe] at hRejected

end Desk

end CypherAssembly

------------------------------------------------------------
-- The Faults of a Query
------------------------------------------------------------

namespace CypherAssembly

namespace Desk

/- The faults of a query are those of all its requests. -/
theorem faults_eq_flatMap_requests
    (name : String)
    (commands : List Command)
    (hAccepts : fresh.Accepts name commands) :
    ((fresh.run commands).builder name).faults =
      (requestsTo name commands).flatMap
        (Request.faults name fun inner =>
          ((fresh.run commands).query inner).2) := by
  rw [faults_run,
    requestsTo_eq_map_asked fresh name commands,
    List.flatMap_map]
  apply List.flatMap_congr
  intro a hMem
  exact
    faults_answer name commands a hMem
      (answer_accepted fresh name commands hAccepts a hMem)

/-
  A run that meets each kind of fault: a pattern without a
  shape, a name that is none, a problem from outside, an
  embedded query with a fault, three requests with nothing
  to say, and content in between that is fine.
-/
def notedRun : List Command :=
  [.ask "low" (.add (.ok (.conditions []))),
    .ask "high"
      (.add (.ok (.patterns .merge
        [.pattern .nothing .nothing .nothing,
          .pattern (.node (.ofParts "a b" [] []))
            .nothing .nothing]))),
    .ask "high"
      (.add (.ok (.projections .carried
        [.fixed (.text "n"),
          .failing (.outside (.failure "gone"))]))),
    .ask "high" (.embed "low"),
    .ask "high" (.add (.ok (.page (.int 1) (.int 0)))),
    .ask "high" (.add (.ok (.delete true .nothing))),
    .ask "high" (.add (.ok (.limit (.int 3)))),
    .ask "high" (.embed "high")]

end Desk

end CypherAssembly
