import Mathlib.Data.List.Basic
import CypherAssembly.Proofs.Desk.Asked
import CypherAssembly.Proofs.Desk.Embedding

/-
  Faults of queries inside of queries.

  Key definitions include:
    * `Branch`
    * `Branch.faults`
    * `Desk.unfolded`
    * `Desk.origins`
    * `Fault.opened`
    * `Fault.openedAll`

  Key theorems include:
    * `Desk.unfolded_eq`
    * `Desk.openedAll_faults`
    * `Desk.no_fault_is_lost`

  An embedded query hands its faults to the query around it
  as one bundle.  Two ways lead from the outermost query to
  all faults that were met: bundles can be opened, those in
  bundles as well, or the embedded queries can be visited,
  each one as often as it is embedded.  Both find the same
  faults in the same order.

  Content can report a bundle, too.  Such a bundle is a
  fault like any other one and stays closed, so for every
  fault it has to be known where it came from.
-/

------------------------------------------------------------
-- Unfolded Queries
------------------------------------------------------------

namespace CypherAssembly

/-
  What came of a request: the faults that were met with it,
  or the requests of the query that was embedded.
-/
inductive Branch where
  | met (faults : List Fault)
  | embedded (query : List Branch)

mutual

/- All faults that were met, the first ones first. -/
def Branch.faults : Branch → List Fault
  | .met faults => faults
  | .embedded query => Branch.faultsOfAll query

/- All faults in several branches, in order. -/
def Branch.faultsOfAll : List Branch → List Fault
  | [] => []
  | b :: rest => b.faults ++ Branch.faultsOfAll rest

end

theorem Branch.faultsOfAll_eq_flatMap
    (branches : List Branch) :
    Branch.faultsOfAll branches =
      branches.flatMap Branch.faults := by
  induction branches with
  | nil => rfl
  | cons b rest ih =>
      rw [Branch.faultsOfAll, ih, List.flatMap_cons]

/- What came of a request, given all queries unfolded. -/
def Asked.branch
    (name : String)
    (queries : String → List Branch)
    (a : Asked) : Branch :=
  match a.embedded? name with
  | some inner => .embedded (queries inner)
  | none => .met (a.answer name).faults

namespace Desk

/-
  A query after a run with all embedded queries unfolded in
  it.  This ends since nothing is embedded in itself.
-/
def unfolded
    (commands : List Command)
    (name : String) : List Branch :=
  (fresh.asked name commands).attach.map fun a =>
    match _ : a.val.embedded? name with
    | some inner => .embedded (unfolded commands inner)
    | none => .met (a.val.answer name).faults
termination_by fresh.openFor name commands
decreasing_by
  rename_i hEmbedded
  apply openFor_lt_of_embeds
  rw [embeds_iff_asked]
  exact ⟨a.val, a.property, hEmbedded⟩

theorem unfolded_eq
    (commands : List Command)
    (name : String) :
    unfolded commands name =
      (fresh.asked name commands).map
        (Asked.branch name (unfolded commands)) := by
  have hEach :
      ∀ a : { a // a ∈ fresh.asked name commands },
        (match _ : a.val.embedded? name with
          | some inner =>
              Branch.embedded (unfolded commands inner)
          | none => .met (a.val.answer name).faults) =
          a.val.branch name (unfolded commands) := by
    intro a
    unfold Asked.branch
    cases a.val.embedded? name <;> rfl
  rw [unfolded, List.map_congr_left fun a _ => hEach a]
  exact List.attach_map_val

end Desk

end CypherAssembly

------------------------------------------------------------
-- Opened Bundles
------------------------------------------------------------

namespace CypherAssembly

namespace Desk

/-
  For every fault of a query, the embedded query whose faults
  it bundles, if it came from one.
-/
def origins
    (commands : List Command)
    (name : String) : List (Option String) :=
  (fresh.asked name commands).flatMap fun a =>
    (a.answer name).faults.map fun _ => a.embedded? name

end Desk

mutual

/-
  A fault of the given origin, opened if it is the bundle of
  an embedded query.
-/
def Fault.opened
    (origins : String → List (Option String)) :
    Option String → Fault → List Fault
  | some inner, .composite faults =>
      Fault.openedAll origins (origins inner) faults
  | _, f => [f]

/- Faults of the given origins, each one opened. -/
def Fault.openedAll
    (origins : String → List (Option String)) :
    List (Option String) → List Fault → List Fault
  | o :: rest, f :: others =>
      Fault.opened origins o f ++
        Fault.openedAll origins rest others
  | _, faults => faults

end

namespace Fault

variable (origins : String → List (Option String))

/- Faults that came from nowhere else stay as they are. -/
theorem openedAll_own
    (faults : List Fault) :
    openedAll origins (faults.map fun _ => none) faults =
      faults := by
  induction faults with
  | nil => rfl
  | cons f rest ih =>
      rw [List.map_cons, openedAll, ih]
      cases f <;> rfl

theorem openedAll_append
    (first second : List (Option String))
    (faults others : List Fault)
    (hLength : first.length = faults.length) :
    openedAll origins (first ++ second) (faults ++ others) =
      openedAll origins first faults ++
        openedAll origins second others := by
  induction first generalizing faults with
  | nil =>
      have hNil : faults = [] :=
        List.length_eq_zero_iff.mp hLength.symm
      subst hNil
      simp [openedAll]
  | cons o first ih =>
      cases faults with
      | nil => cases hLength
      | cons f rest =>
          have hRest := ih rest (Nat.succ.inj hLength)
          simp only [List.cons_append, openedAll, hRest,
            List.append_assoc]

/- Faults that were met with requests are opened in turn. -/
theorem openedAll_flatMap
    {A : Type}
    (origin : A → Option String)
    (faults : A → List Fault)
    (given : List A) :
    openedAll origins
        (given.flatMap fun a =>
          (faults a).map fun _ => origin a)
        (given.flatMap faults) =
      given.flatMap fun a =>
        openedAll origins ((faults a).map fun _ => origin a)
          (faults a) := by
  induction given with
  | nil => rfl
  | cons a rest ih =>
      simp only [List.flatMap_cons]
      rw [openedAll_append _ _ _ _ _ (List.length_map ..), ih]

end Fault

end CypherAssembly

------------------------------------------------------------
-- Both Ways to All Faults
------------------------------------------------------------

namespace CypherAssembly

namespace Desk

/- The bundle of a query is empty if there are no faults. -/
theorem fault_query_eq
    (d : Desk)
    (name : String) :
    (d.query name).2 =
      Fault.ofMany? (d.builder name).faults := by
  rw [query_eq]
  rfl

/- An embedding notes the faults of a query as one, if any. -/
theorem faults_of_embedded
    (commands : List Command)
    (outer inner : String)
    (a : Asked)
    (hMem : a ∈ fresh.asked outer commands)
    (hEmbedded : a.embedded? outer = some inner) :
    (a.answer outer).faults =
      ((fresh.run commands).query inner).2.toList := by
  rw [answer_of_embedded commands outer inner a hMem
    hEmbedded]
  rfl

/-
  The faults that are found by opening bundles are those
  that are found by visiting embedded queries.
-/
theorem openedAll_faults
    (commands : List Command)
    (name : String) :
    Fault.openedAll (origins commands) (origins commands name)
        ((fresh.run commands).builder name).faults =
      Branch.faultsOfAll (unfolded commands name) := by
  -- embedded queries were open for less time than this one
  induction hTime : fresh.openFor name commands using
    Nat.strongRecOn generalizing name with
  | ind time ih =>
      rw [faults_run, unfolded_eq,
        Branch.faultsOfAll_eq_flatMap, List.flatMap_map]
      refine
        (Fault.openedAll_flatMap _ _ _ _).trans
          (List.flatMap_congr fun a hMem => ?_)
      unfold Asked.branch
      cases hEmbedded : a.embedded? name with
      | none =>
          exact Fault.openedAll_own _ _
      | some inner =>
          have hEmbeds : Embeds commands name inner :=
            (embeds_iff_asked commands name inner).mpr
              ⟨a, hMem, hEmbedded⟩
          have hLess :=
            openFor_lt_of_embeds commands name inner hEmbeds
          have hInner := ih _ (hTime ▸ hLess) inner rfl
          rw [faults_of_embedded commands name inner a hMem
            hEmbedded, fault_query_eq]
          cases hFaults :
              ((fresh.run commands).builder inner).faults with
          | nil =>
              rw [hFaults] at hInner
              simpa [Fault.ofMany?, Fault.openedAll,
                Branch.faults] using hInner
          | cons f rest =>
              rw [hFaults] at hInner
              simpa [Fault.ofMany?, Fault.openedAll,
                Fault.opened, Branch.faults] using hInner

end Desk

end CypherAssembly

------------------------------------------------------------
-- Faults of Embedded Queries
------------------------------------------------------------

namespace CypherAssembly

namespace Desk

/- There is no bundle exactly when there are no faults. -/
theorem fault_query_eq_none_iff
    (d : Desk)
    (name : String) :
    (d.query name).2 = none ↔
      (d.builder name).faults = [] := by
  rw [fault_query_eq]
  cases (d.builder name).faults with
  | nil => simp [Fault.ofMany?]
  | cons f rest => simp [Fault.ofMany?]

/-
  A query is without faults if and only if no request met
  any and all queries in it are without faults.
-/
theorem fault_query_eq_none_iff_asked
    (commands : List Command)
    (name : String) :
    ((fresh.run commands).query name).2 = none ↔
      (∀ a ∈ fresh.asked name commands,
          a.embedded? name = none →
            (a.answer name).faults = []) ∧
        ∀ inner,
          Embeds commands name inner →
            ((fresh.run commands).query inner).2 = none := by
  rw [fault_query_eq_none_iff, faults_run,
    List.flatMap_eq_nil_iff]
  constructor
  · intro hNone
    constructor
    · intro a hMem _
      exact hNone a hMem
    · intro inner hEmbeds
      rcases (embeds_iff_asked commands name inner).mp hEmbeds
        with ⟨a, hMem, hEmbedded⟩
      have hFaults := hNone a hMem
      rw [faults_of_embedded commands name inner a hMem
        hEmbedded] at hFaults
      exact Option.toList_eq_nil_iff.mp hFaults
  · rintro ⟨hOwn, hInner⟩ a hMem
    cases hEmbedded : a.embedded? name with
    | none => exact hOwn a hMem hEmbedded
    | some inner =>
        have hEmbeds : Embeds commands name inner :=
          (embeds_iff_asked commands name inner).mpr
            ⟨a, hMem, hEmbedded⟩
        rw [faults_of_embedded commands name inner a hMem
          hEmbedded, hInner inner hEmbeds]
        rfl

/-
  A query is without faults if and only if no request met
  any and all queries in it are without faults.  Otherwise
  its faults are bundled, and if the bundles that came from
  embedded queries are opened, all faults are there that
  were met in any of the queries, in order.  An embedding
  leaves one fault if the embedded query has any, and else
  none.
-/
theorem no_fault_is_lost
    (commands : List Command)
    (name : String) :
    let d := fresh.run commands
    ((d.query name).2 = none ↔
        (∀ a ∈ fresh.asked name commands,
            a.embedded? name = none →
              (a.answer name).faults = []) ∧
          ∀ inner,
            Embeds commands name inner →
              (d.query inner).2 = none) ∧
      (∀ fault,
        (d.query name).2 = some fault →
          ∃ faults,
            fault = .composite faults ∧
              faults =
                ((fresh.asked name commands).flatMap fun a =>
                  (a.answer name).faults) ∧
              Fault.openedAll (origins commands)
                  (origins commands name) faults =
                Branch.faultsOfAll
                  (unfolded commands name)) ∧
      ∀ a ∈ fresh.asked name commands,
        ∀ inner,
          a.embedded? name = some inner →
            (a.answer name).faults =
              (d.query inner).2.toList := by
  intro d
  refine ⟨?_, ?_, ?_⟩
  · exact fault_query_eq_none_iff_asked commands name
  · intro fault hFault
    refine ⟨(d.builder name).faults, ?_, ?_, ?_⟩
    · rw [fault_query_eq] at hFault
      cases hFaults : (d.builder name).faults with
      | nil => simp [hFaults, Fault.ofMany?] at hFault
      | cons f rest =>
          rw [hFaults] at hFault
          exact (Option.some.inj hFault).symm
    · exact faults_run name commands
    · exact openedAll_faults commands name
  · intro a hMem inner hEmbedded
    exact
      faults_of_embedded commands name inner a hMem hEmbedded

/-
  A query with two faults is embedded twice in a query that
  is embedded itself.  The outermost query also meets a
  bundle that its content reports.
-/
def bundledRun : List Command :=
  [.ask "low" (.add (.ok (.conditions []))),
    .ask "low"
      (.add (.ok (.projections .returned
        [.fixed (.text "n"), .failing .blankCondition]))),
    .execute "low",
    .ask "middle" (.embed "low"),
    .ask "clean" (.add (.ok (.limit (.int 3)))),
    .ask "middle" (.add (.ok (.orderBy .nothing))),
    .ask "middle" (.embed "low"),
    .ask "high" (.embed "clean"),
    .ask "high" (.embed "middle"),
    .ask "high"
      (.add (.ok (.conditions
        [.failing (.composite [.blankOrdering])]))),
    .ask "high" (.embed "high")]

/- The bundle of the outermost query, and what is in it. -/
theorem faults_of_bundledRun :
    let d := fresh.run bundledRun
    let low : List Fault :=
      [.emptyClause .filtering, .blankCondition]
    (d.query "high").2 =
        some (.composite
          [.composite
              [.composite low, .emptyClause .orderBy,
                .composite low],
            .composite [.blankOrdering],
            .selfEmbedding]) ∧
      Branch.faultsOfAll (unfolded bundledRun "high") =
        low ++ [.emptyClause .orderBy] ++ low ++
          [.composite [.blankOrdering], .selfEmbedding] := by
  intro d low
  have hBundle :
      (d.query "high").2 =
        some (.composite
          [.composite
              [.composite low, .emptyClause .orderBy,
                .composite low],
            .composite [.blankOrdering],
            .selfEmbedding]) := rfl
  rcases no_fault_is_lost bundledRun "high" with
    ⟨_, hOpened, _⟩
  rcases hOpened _ hBundle with ⟨faults, hFaults, _, hAll⟩
  have hSame := Fault.composite.inj hFaults
  subst hSame
  exact ⟨hBundle, hAll.symm.trans rfl⟩

end Desk

end CypherAssembly
