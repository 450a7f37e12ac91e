import Mathlib.Data.List.TakeWhile
import CypherAssembly.Proofs.Clause.Refused

/-
  Where clauses are broken off.

  Key definitions include:
    * `Clause.isOfContent`
    * `Clause.obstacle?`
    * `Clause.reached`
    * `Clause.reachedFaults`
    * `Clause.breakOff?`
    * `Clause.Becomes`

  Key theorems include:
    * `Attempt.inOrder_error_iff`
    * `Attempt.inOrder_faults_reached`
    * `Clause.becomes_contribution`
    * `Clause.refusal_contribution`
    * `Clause.faults_of_refused`

  A clause is broken off at the first of its arguments that
  it cannot look at: content without places for shapes among
  patterns, or a single operand that cannot say whether it is
  empty.  If there is none, it can still happen that a piece
  is no text when all of them are joined.  The arguments that
  were reached by then have left their faults.
-/

------------------------------------------------------------
-- Obstacles
------------------------------------------------------------

namespace CypherAssembly

/- Why content cannot be resolved as a pattern, if so. -/
def Content.patternRefusal?
    (c : Content) : Option Refusal :=
  match c.places with
  | .ok _ => none
  | .error problem => some (.ofProblem problem)

namespace Clause

/- Holds for clauses that are made of content. -/
def isOfContent : Clause → Bool
  | patterns _ _ => true
  | conditions _ => true
  | projections _ _ => true
  | delete _ _ => true
  | remove _ => true
  | orderBy _ => true
  | _ => false

/- Why a clause cannot look at an argument, if so. -/
def obstacle?
    (c : Clause)
    (argument : Content) : Option Refusal :=
  match c with
  | patterns _ _ => argument.patternRefusal?
  | delete _ _ => argument.obstacle?.map .ofProblem
  | remove _ => argument.obstacle?.map .ofProblem
  | orderBy _ => argument.obstacle?.map .ofProblem
  | _ => none

/- The arguments in front of the first obstacle. -/
def reached
    (c : Clause) : List Content :=
  c.arguments.takeWhile fun a => (c.obstacle? a).isNone

/- The faults of the arguments that are reached, in order. -/
def reachedFaults
    (c : Clause) : List Fault :=
  c.reached.zipIdx.filterMap fun a =>
    c.argumentFault? a.2 a.1

/- The first value that is in the place of a text. -/
def foreign?
    (c : Clause) : Option Value :=
  (c.arguments.filterMap c.rendered?).findSome?
    Content.foreign?

/-
  Why a clause is broken off, if it is.  A clause with
  nothing to say does not come that far.
-/
def breakOff?
    (c : Clause) : Option Refusal :=
  if c.isRejected then none
  else
    (c.arguments.findSome? c.obstacle?).or
      (c.foreign?.map fun v => .notJoined v.kind)

end Clause

end CypherAssembly

------------------------------------------------------------
-- Attempts up to an Obstacle
------------------------------------------------------------

namespace CypherAssembly

namespace Attempt

variable {A B : Type}
variable (attempt : Int → A → Attempt B)
variable (obstacle? : A → Option Refusal)
variable (fault? : Nat → A → Option Fault)

/-
  If single attempts are refused for obstacles alone, the
  first obstacle is why attempts in order are refused.
-/
theorem inOrder_error_iff
    (hRefused : ∀ i a r,
      obstacle? a = some r → attempt i a = refused r)
    (hEnded : ∀ i a,
      obstacle? a = none →
        ∃ b, (attempt i a).outcome = .ok b)
    (start : Int)
    (given : List A)
    (r : Refusal) :
    (inOrder attempt start given).outcome = .error r ↔
      given.findSome? obstacle? = some r := by
  induction given generalizing start with
  | nil => simp [inOrder]
  | cons a rest ih =>
      unfold inOrder
      rw [List.findSome?_cons]
      cases hObstacle : obstacle? a with
      | some first =>
          simp [hRefused start a first hObstacle, refused]
      | none =>
          rcases hEnded start a hObstacle with ⟨b, hOutcome⟩
          simp only [hOutcome]
          rw [← ih (start + 1)]
          cases (inOrder attempt (start + 1) rest).outcome <;>
            simp [Except.map]

/-
  The faults of attempts in order are those of the attempts
  in front of the first obstacle.
-/
theorem inOrder_faults_reached
    (hRefused : ∀ i a r,
      obstacle? a = some r → attempt i a = refused r)
    (hEnded : ∀ (i : Nat) a,
      obstacle? a = none →
        ∃ b,
          (attempt i a).outcome = .ok b ∧
            (attempt i a).faults = (fault? i a).toList)
    (start : Nat)
    (given : List A) :
    (inOrder attempt start given).faults =
      ((given.takeWhile fun a => (obstacle? a).isNone).zipIdx
        start).filterMap fun a => fault? a.2 a.1 := by
  induction given generalizing start with
  | nil => rfl
  | cons a rest ih =>
      unfold inOrder
      cases hObstacle : obstacle? a with
      | some r =>
          rw [hRefused start a r hObstacle]
          simp [refused, hObstacle]
      | none =>
          rcases hEnded start a hObstacle with
            ⟨b, hOutcome, hFaults⟩
          have hRest := ih (start + 1)
          rw [Int.natCast_succ] at hRest
          simp only [hOutcome, hFaults, hRest,
            List.takeWhile_cons, hObstacle,
            Option.isNone_none, if_true, List.zipIdx_cons,
            List.filterMap_cons]
          cases fault? start a <;> rfl

end Attempt

end CypherAssembly

------------------------------------------------------------
-- Patterns up to an Obstacle
------------------------------------------------------------

namespace CypherAssembly

/- Content without places for shapes is not resolved. -/
theorem resolve_refused
    (spot : Checked Spot)
    (c : Content)
    (r : Refusal)
    (hRefusal : c.patternRefusal? = some r) :
    resolve spot c = .refused r := by
  unfold Content.patternRefusal? at hRefusal
  unfold resolve
  split at hRefusal
  · cases hRefusal
  · rename_i problem hPlaces
    cases hRefusal
    rw [hPlaces]

/- Any other content is resolved, though it may fail. -/
theorem exists_resolve_ok
    (spot : Spot)
    (c : Content)
    (hPlaces : c.patternRefusal? = none) :
    ∃ text, (resolve (.ok spot) c).outcome = .ok text := by
  unfold Content.patternRefusal? at hPlaces
  unfold resolve
  split at hPlaces
  · rename_i places hOk
    simp only [hOk]
    split
    · exact ⟨_, rfl⟩
    · exact ⟨"", rfl⟩
  · cases hPlaces

theorem resolveAll_error_iff
    (clause : Option String)
    (given : List Content)
    (r : Refusal) :
    (resolveAll (.ok clause) given).outcome = .error r ↔
      given.findSome? Content.patternRefusal? = some r := by
  have hOrder :=
    Attempt.inOrder_error_iff
      (fun i c =>
        resolve
          (.ok
            { clause
              position := some i }) c)
      Content.patternRefusal?
      (fun _ c r => resolve_refused _ c r)
      (fun _ c => exists_resolve_ok _ c) 0 given r
  rw [← hOrder]
  unfold resolveAll Attempt.map
  simp only [Except.map]
  generalize (Attempt.inOrder _ 0 given).outcome = outcome
  cases outcome <;> simp

theorem resolveAll_faults_reached
    (clause : String)
    (given : List Content) :
    (resolveAll (.ok (some clause)) given).faults =
      ((given.takeWhile fun c =>
          c.patternRefusal?.isNone).zipIdx).filterMap
        fun a =>
          a.1.patternFaultAt? (.inClause clause a.2) := by
  apply
    Attempt.inOrder_faults_reached _ Content.patternRefusal?
      fun i c => c.patternFaultAt? (.inClause clause i)
  · intro i c r hRefusal
    exact resolve_refused _ c r hRefusal
  · intro i c hPlaces
    rcases exists_resolve_ok (.inClause clause i) c hPlaces
      with ⟨text, hText⟩
    exact ⟨text, hText, resolve_faults _ c text hText⟩

end CypherAssembly

------------------------------------------------------------
-- What Becomes of Clauses
------------------------------------------------------------

namespace CypherAssembly

namespace Contribution

/- Pieces that cannot be joined add no faults. -/
theorem faults_joining
    (pieces : List Content)
    (x : Contribution) :
    (x.joining pieces).faults = x.faults := by
  unfold joining
  split <;> rfl

/- Where there are no clauses, nothing is joined. -/
theorem joining_of_no_clauses
    (pieces : List Content)
    (x : Contribution)
    (hNone : x.clauses = []) :
    x.joining pieces = x := by
  unfold joining
  rw [hNone]
  split <;> simp_all

/- A clause is broken off if one of its pieces is no text. -/
theorem refusal_joining_single
    (pieces : List Content)
    (k : Keyword)
    (text : String)
    (faults : List Fault) :
    ((single k text faults).joining pieces).refusal =
      (pieces.findSome? Content.foreign?).map fun v =>
        .notJoined v.kind := by
  unfold joining single
  cases pieces.findSome? Content.foreign? with
  | none => rfl
  | some v => rfl

end Contribution

namespace Clause

/-
  What becomes of a clause that is made of content.  It is
  rejected if there is nothing to say, it stops at the first
  obstacle, or all of its pieces are there and are joined.
-/
inductive Becomes
    (c : Clause) : Contribution → Prop where
  | rejected
      (hRejected : c.isRejected = true) :
      Becomes c (.rejected c.guardFault)
  | stopped
      (r : Refusal)
      (hSome : c.isRejected = false)
      (hObstacle :
        c.arguments.findSome? c.obstacle? = some r) :
      Becomes c
        { Contribution.refused r with
          faults := c.reachedFaults }
  | joined
      (text : String)
      (hSome : c.isRejected = false)
      (hNone : c.arguments.findSome? c.obstacle? = none) :
      Becomes c
        ((Contribution.single c.keyword text
            c.reachedFaults).joining
          (c.arguments.filterMap c.rendered?))

/- Without obstacles, all arguments are reached. -/
theorem reachedFaults_of_no_obstacle
    (c : Clause)
    (hNone : c.arguments.findSome? c.obstacle? = none) :
    c.reachedFaults = c.argumentFaults := by
  have hAll : c.reached = c.arguments := by
    rw [reached, List.takeWhile_eq_self_iff]
    intro a hMem
    rw [List.findSome?_eq_none_iff.mp hNone a hMem]
    rfl
  rw [reachedFaults, hAll, argumentFaults]

/- Patterns stop at the first one without places. -/
theorem becomes_patterns
    (kind : PatternClause)
    (given : List Content) :
    (patterns kind given).Becomes
      (patterns kind given).contribution := by
  have hError :=
    resolveAll_error_iff (some kind.keyword.text) given
  have hFaults :
      (resolveAll (.ok (some kind.keyword.text))
          given).faults =
        (patterns kind given).reachedFaults :=
    resolveAll_faults_reached kind.keyword.text given
  simp only [contribution]
  cases hSome : given.isEmpty with
  | true =>
      have hRejected :
          ofPatterns kind.keyword given =
            .rejected (.emptyPatterns kind.keyword) := by
        simp [ofPatterns, hSome]
      rw [hRejected,
        Contribution.joining_of_no_clauses _ _ rfl]
      exact .rejected hSome
  | false =>
      cases hOutcome :
          (resolveAll (.ok (some kind.keyword.text))
            given).outcome with
      | error r =>
          have hStopped :
              ofPatterns kind.keyword given =
                { Contribution.refused r with
                  faults :=
                    (patterns kind given).reachedFaults } := by
            simp [ofPatterns, hSome, hOutcome, hFaults]
          rw [hStopped,
            Contribution.joining_of_no_clauses _ _ rfl]
          exact .stopped r hSome ((hError r).mp hOutcome)
      | ok operand =>
          have hLine :
              ofPatterns kind.keyword given =
                .single kind.keyword
                  (kind.keyword.clause operand)
                  (patterns kind given).reachedFaults := by
            simp [ofPatterns, hSome, hOutcome, hFaults,
              Contribution.line]
          have hNone :
              given.findSome? Content.patternRefusal? =
                none := by
            rw [Option.eq_none_iff_forall_not_mem]
            intro r hFirst
            have hRefused := (hError r).mpr hFirst
            rw [hOutcome] at hRefused
            cases hRefused
          rw [hLine]
          exact .joined _ hSome hNone

/- Pieces that are looked at only to render them are joined. -/
theorem becomes_of_pieces
    (c : Clause)
    (text : String)
    (hReachable : ∀ a, c.obstacle? a = none)
    (hRendered : ∀ a, c.rendered? a = some a)
    (hEq :
      c.contribution =
        (if c.isRejected then
            Contribution.rejected c.guardFault
          else
            .single c.keyword text
              c.argumentFaults).joining c.arguments) :
    c.Becomes c.contribution := by
  have hNone : c.arguments.findSome? c.obstacle? = none :=
    List.findSome?_eq_none_iff.mpr fun a _ => hReachable a
  have hPieces :
      c.arguments.filterMap c.rendered? = c.arguments := by
    rw [show c.rendered? = some from funext hRendered]
    exact List.filterMap_some
  rw [hEq]
  cases hRejected : c.isRejected with
  | true =>
      rw [if_pos rfl,
        Contribution.joining_of_no_clauses _ _ rfl]
      exact .rejected hRejected
  | false =>
      have hJoined :=
        Becomes.joined (c := c) text hRejected hNone
      rw [hPieces, c.reachedFaults_of_no_obstacle hNone]
        at hJoined
      exact hJoined

/- Content that cannot be asked is not vacant. -/
theorem isVacant_of_obstacle
    (given : Content)
    (problem : Problem)
    (hObstacle : given.obstacle? = some problem) :
    given.isVacant = false := by
  cases given with
  | refilled r =>
      cases hEmptiness : Content.emptinessIn r with
      | ok isEmpty =>
          simp [Content.obstacle?, hEmptiness] at hObstacle
      | error other =>
          simp [Content.isVacant, Content.isGiven,
            Content.isDescription, Content.isEmpty?,
            Content.emptiness?, hEmptiness, Except.toOption]
  | _ => cases hObstacle

/- A single operand is asked first whether it is empty. -/
theorem becomes_of_single
    (c : Clause)
    (target : Content)
    (text : String)
    (hArguments : c.arguments = [target])
    (hRendered : c.rendered? target = some target)
    (hRejected : c.isRejected = target.isVacant)
    (hGuard : c.guardFault = .emptyClause c.keyword)
    (hObstacle :
      c.obstacle? target =
        target.obstacle?.map .ofProblem)
    (hEq :
      c.contribution =
        (unlessVacant c.keyword target
          (.single c.keyword text
            (c.argumentFault? 0 target).toList)).joining
              [target]) :
    c.Becomes c.contribution := by
  have hFirst :
      c.arguments.findSome? c.obstacle? =
        target.obstacle?.map .ofProblem := by
    rw [hArguments, List.findSome?_cons, hObstacle]
    cases target.obstacle? <;> rfl
  rw [hEq]
  unfold unlessVacant
  cases hProblem : target.obstacle? with
  | some problem =>
      have hVacant := isVacant_of_obstacle target problem hProblem
      have hFaults : c.reachedFaults = [] := by
        simp [reachedFaults, reached, hArguments, hObstacle,
          hProblem]
      have hStopped :=
        Becomes.stopped (c := c) (.ofProblem problem)
          (by rw [hRejected, hVacant])
          (by rw [hFirst, hProblem]; rfl)
      rw [hFaults] at hStopped
      rw [Contribution.joining_of_no_clauses _ _ rfl]
      exact hStopped
  | none =>
      have hNone :
          c.arguments.findSome? c.obstacle? = none := by
        rw [hFirst, hProblem]
        rfl
      cases hVacant : target.isVacant with
      | true =>
          simp only [if_true]
          rw [Contribution.joining_of_no_clauses _ _ rfl,
            ← hGuard]
          exact .rejected (by rw [hRejected, hVacant])
      | false =>
          have hJoined :=
            Becomes.joined (c := c) text
              (by rw [hRejected, hVacant]) hNone
          rw [c.reachedFaults_of_no_obstacle hNone,
            argumentFaults_of_single c target hArguments,
            hArguments] at hJoined
          simpa [hRendered] using hJoined

theorem becomes_contribution
    (c : Clause)
    (hContent : c.isOfContent = true) :
    c.Becomes c.contribution := by
  cases c with
  | patterns kind given => exact becomes_patterns kind given
  | conditions given =>
      apply becomes_of_pieces _ _ (fun _ => rfl) fun _ => rfl
      simp only [contribution, ofConditions_eq]
      rfl
  | projections kind given =>
      apply becomes_of_pieces _ _ (fun _ => rfl) fun _ => rfl
      simp only [contribution, ofProjections_eq]
      rfl
  | delete detach target =>
      apply becomes_of_single _ target _ rfl rfl rfl rfl rfl
      simp only [contribution, ofSingle, Contribution.line,
        faults_renderOne]
      rfl
  | remove target =>
      apply becomes_of_single _ target _ rfl rfl rfl rfl rfl
      simp only [contribution, ofRemoval,
        Contribution.trimmedLine, faults_concat]
      rw [filterMap_zipIdx_singleton fun i a =>
        a.faultAt? (.inClause Keyword.remove.text i)]
      rfl
  | orderBy order =>
      apply becomes_of_single _ order _ rfl rfl rfl rfl rfl
      simp only [contribution, ofSingle, Contribution.line,
        faults_renderOne]
      rfl
  | union keepAll => cases hContent
  | limit count => cases hContent
  | skip count => cases hContent
  | page number size => cases hContent
  | call given => cases hContent

/- A clause is broken off for the reasons that were given. -/
theorem refusal_contribution
    (c : Clause)
    (hContent : c.isOfContent = true) :
    c.contribution.refusal = c.breakOff? := by
  have hBecomes := c.becomes_contribution hContent
  unfold breakOff?
  generalize c.contribution = x at hBecomes
  cases hBecomes with
  | rejected hRejected =>
      rw [if_pos hRejected]
      rfl
  | stopped r hSome hObstacle =>
      rw [hSome, hObstacle]
      rfl
  | joined text hSome hNone =>
      rw [hSome, hNone,
        Contribution.refusal_joining_single]
      rfl

/- A line with a number of rows has no faults. -/
theorem faults_ofCount
    (k : Keyword)
    (count : Value) :
    (ofCount k count).faults = [] := by
  unfold ofCount
  cases rowCount count <;> rfl

/- The arguments that were reached have left their faults. -/
theorem faults_of_refused
    (c : Clause)
    (r : Refusal)
    (hRefused : c.contribution.refusal = some r) :
    c.contribution.faults = c.reachedFaults := by
  cases hContent : c.isOfContent with
  | true =>
      have hBecomes := c.becomes_contribution hContent
      generalize c.contribution = x at hBecomes hRefused
      cases hBecomes with
      | rejected hRejected => cases hRefused
      | stopped r hSome hObstacle => rfl
      | joined text hSome hNone =>
          rw [Contribution.faults_joining]
          rfl
  | false =>
      cases c with
      | page number size =>
          simp only [contribution] at hRefused ⊢
          cases hPage : ofPage number size with
          | error other => rfl
          | ok x =>
              rw [hPage] at hRefused
              rcases ofPage_cases number size x hPage with
                ⟨_, rfl⟩ | ⟨_, _, rfl⟩ | ⟨_, _, _, rfl⟩
              · cases hRefused
              · cases hRefused
              · cases rowCount size <;> rfl
      | union keepAll => cases hRefused
      | limit count => exact faults_ofCount _ count
      | skip count => exact faults_ofCount _ count
      | call given => rfl
      | _ => cases hContent

end Clause

end CypherAssembly
