import CypherAssembly.Proofs.Clause.Refused
import CypherAssembly.Proofs.Desk.Calls
import CypherAssembly.Proofs.Desk.History

/-
  Finishing a query for good.

  Key definitions include:
    * `Desk.Finishes`
    * `Desk.delivered`

  Key theorems include:
    * `Desk.isFinished_run_iff`
    * `Desk.desk_of_finished`
    * `Desk.ask_of_finished_call`
    * `Desk.kind?_of_open_refusal`
    * `Desk.finishing_is_final`

  A query is finished when somebody wants it, or when it is
  embedded in another one.  From then on its builder stays
  as it is: whoever wants the query gets what the first one
  got, and every call of the builder is refused.  The reason
  is that it is finished, unless the call comes to nothing
  before the builder hears of it.  No other builder refuses a
  call for that reason.
-/

------------------------------------------------------------
-- Commands That Finish
------------------------------------------------------------

namespace CypherAssembly

namespace Desk

/- A command that has the query of a builder finished. -/
def Finishes
    (d : Desk)
    (name : String)
    (c : Command) : Prop :=
  c = .execute name ∨
    c = .build name ∨
      c = .ask c.subject (.embed name) ∧
        d.CanEmbed c.subject name

/- Such a command finishes the builder. -/
theorem builder_after_of_finishes
    (d : Desk)
    (name : String)
    (c : Command)
    (hFinishes : d.Finishes name c) :
    (d.after c).builder name = (d.builder name).finish := by
  rcases hFinishes with rfl | rfl | ⟨hCommand, hCan⟩
  · exact builder_finish_self d name
  · rw [after_build]
    exact builder_finish_self d name
  · rcases (canEmbed_iff d c.subject name).mp hCan with
      ⟨hOpen, hNe⟩
    rw [hCommand]
    exact builder_ask_embedded d c.subject name hOpen hNe

/- Any other command leaves it open or finished as it was. -/
theorem isFinished_after_of_not_finishes
    (d : Desk)
    (name : String)
    (c : Command)
    (hNot : ¬ d.Finishes name c) :
    ((d.after c).builder name).isFinished =
      (d.builder name).isFinished := by
  by_cases hSelf : name = c.subject
  · subst hSelf
    cases c with
    | ask name r =>
        change ((d.ask name r).1.builder name).isFinished = _
        rw [builder_ask_self, Builder.isFinished_take]
        rfl
    | execute name => exact absurd (Or.inl rfl) hNot
    | build name => exact absurd (Or.inr (Or.inl rfl)) hNot
  · rw [builder_after_of_untouched d c name hSelf]
    rintro ⟨hCommand, hOpen⟩
    have hCan : d.CanEmbed c.subject name :=
      (canEmbed_iff d c.subject name).mpr ⟨hOpen, hSelf⟩
    exact hNot (Or.inr (Or.inr ⟨hCommand, hCan⟩))

theorem isFinished_after_iff
    (d : Desk)
    (name : String)
    (c : Command) :
    ((d.after c).builder name).isFinished = true ↔
      (d.builder name).isFinished = true ∨
        d.Finishes name c := by
  by_cases hFinishes : d.Finishes name c
  · rw [builder_after_of_finishes d name c hFinishes]
    simp [hFinishes]
  · rw [isFinished_after_of_not_finishes d name c hFinishes]
    simp [hFinishes]

/- A builder is finished if a command of the run did that. -/
theorem isFinished_run_iff
    (d : Desk)
    (name : String)
    (commands : List Command) :
    ((d.run commands).builder name).isFinished = true ↔
      (d.builder name).isFinished = true ∨
        ∃ t ∈ d.history commands,
          t.before.Finishes name t.command := by
  induction commands generalizing d with
  | nil => simp [run, history]
  | cons c rest ih =>
      rw [run_cons, ih, isFinished_after_iff]
      simp [history, or_assoc]

end Desk

end CypherAssembly

------------------------------------------------------------
-- Calls of Finished Builders
------------------------------------------------------------

namespace CypherAssembly

/- A value that is there already changes nothing. -/
theorem Record.put_of_get?
    {A : Type}
    (r : Record A)
    (name : String)
    (value : A)
    (hThere : r.get? name = some value) :
    r.put name value = r := by
  induction r with
  | nil => cases hThere
  | cons entry rest ih =>
      obtain ⟨first, old⟩ := entry
      by_cases hFirst : first = name
      · simp only [get?, hFirst, if_true,
          Option.some.injEq] at hThere
        simp [put, hFirst, hThere]
      · simp only [get?, hFirst, if_false] at hThere
        simp [put, hFirst, ih hThere]

namespace Desk

/- A builder that is finished is on the desk. -/
theorem get?_of_finished
    (d : Desk)
    (name : String)
    (hFinished : (d.builder name).isFinished = true) :
    d.builders.get? name = some (d.builder name) := by
  unfold builder at hFinished ⊢
  cases hGet : d.builders.get? name with
  | none => simp [hGet, Builder.empty] at hFinished
  | some b => rfl

/- A clause changes nothing on the desk if it comes too late. -/
theorem add_of_finished
    (d : Desk)
    (name : String)
    (c : Clause)
    (hFinished : (d.builder name).isFinished = true) :
    d.ask name (.add (.ok c)) =
      (d, .refused (.fault (.finalized c.keyword))) := by
  have hAnswer := ask_add_of_finished d name c hFinished
  have hDesk : (d.ask name (.add (.ok c))).1 = d := by
    change d.take name c.keyword
      (d.ask name (.add (.ok c))).2 = d
    rw [hAnswer, take, Builder.take_refused,
      Record.put_of_get? _ _ _
        (get?_of_finished d name hFinished)]
    simp [Event.ofRecording, Contribution.refused]
  exact Prod.ext hDesk hAnswer

/- Nor does anything else that a finished builder is asked. -/
theorem desk_of_finished
    (d : Desk)
    (name : String)
    (r : Request)
    (hFinished : (d.builder name).isFinished = true) :
    (d.ask name r).1 = d := by
  rcases r with (refusal | c) | inner
  · rfl
  · rw [add_of_finished d name c hFinished]
  · rw [ask_embed_of_finished d name inner hFinished]

/-
  A finished builder refuses every call because it is
  finished, unless what the call is to return is no text.
  The answer shows the keyword of the call and nothing else
  of it.
-/
theorem ask_of_finished_call
    (d : Desk)
    (name : String)
    (call : Call)
    (hFinished : (d.builder name).isFinished = true)
    (hUnambiguous : call.IsUnambiguous) :
    d.ask name call.request =
      (d,
        .refused
          (if call.returnsTexts then
              .fault (.finalized call.keyword)
            else Clause.notExpression)) := by
  cases hTexts : call.returnsTexts with
  | true =>
      rcases call.request_eq hUnambiguous hTexts with
        ⟨inner, rfl⟩ | ⟨c, hRequest, hKeyword⟩
      · exact ask_embed_of_finished d name inner hFinished
      · rw [hRequest, add_of_finished d name c hFinished,
          hKeyword]
        rfl
  | false =>
      rw [call.request_of_others hTexts]
      rfl

/- An open builder never says that it is finished. -/
theorem kind?_of_open_refusal
    (d : Desk)
    (name : String)
    (call : Call)
    (f : Fault)
    (hOpen : (d.builder name).isFinished = false)
    (hRefused :
      (d.ask name call.request).2.refusal =
        some (.fault f)) :
    f.kind? ≠ some .finalized := by
  cases hRequest : call.request with
  | add made =>
      rw [hRequest] at hRefused
      cases made with
      | error r =>
          rcases call.cases_of_refused r hRequest with
            ⟨argument, rfl⟩ | rfl
          · cases hRefused
          · cases hRefused
      | ok c =>
          rw [ask_add_of_open d name c hOpen] at hRefused
          rcases c.contribution_of_refused _ hRefused with
            ⟨_, _, hForeign⟩
          rw [Refusal.kind?_eq_none f hForeign]
          simp
  | embed inner =>
      rw [hRequest] at hRefused
      by_cases hSelf : inner = name
      · subst hSelf
        rw [ask_embed_self d inner hOpen] at hRefused
        cases hRefused
      · rw [ask_embed_of_open d name inner hOpen hSelf]
          at hRefused
        cases hRefused

end Desk

end CypherAssembly

------------------------------------------------------------
-- Queries That Were Handed Out
------------------------------------------------------------

namespace CypherAssembly

namespace Desk

/- The text of a query, or else the bundle of its faults. -/
def delivered : String × Option Fault → Except Fault String
  | (text, none) => .ok text
  | (_, some fault) => .error fault

theorem build_snd
    (d : Desk)
    (name : String) :
    (d.build name).2 = delivered (d.execute name).2 := by
  unfold build
  rcases d.execute name with ⟨next, text, _ | fault⟩
  · rfl
  · rfl

/- Finishing a query does not change what is handed out. -/
theorem query_after_of_finishes
    (d : Desk)
    (name : String)
    (c : Command)
    (hFinishes : d.Finishes name c) :
    (d.after c).query name = d.query name := by
  rw [query_eq, query_eq,
    builder_after_of_finishes d name c hFinishes,
    Builder.finish_finish]
  simp [Builder.fault?]

/-
  What holds after a turn that finishes a builder, at that
  time and at any later one.
-/
theorem builder_of_finishing_turn
    (commands : List Command)
    (name : String)
    (t : Turn)
    (hMem : t ∈ fresh.history commands)
    (hFinishes : t.before.Finishes name t.command) :
    let d := fresh.run commands
    d.builder name =
        (t.before.after t.command).builder name ∧
      d.query name = t.before.query name := by
  intro d
  rcases (mem_history_iff fresh commands t).mp hMem with
    ⟨first, second, hSplit, hBefore⟩
  have hRun : d = (t.before.after t.command).run second := by
    rw [show d = fresh.run commands from rfl, hSplit,
      run_append, run_cons, hBefore]
  have hFinished :
      ((t.before.after t.command).builder name).isFinished =
        true := by
    rw [isFinished_after_iff]
    exact Or.inr hFinishes
  constructor
  · rw [hRun]
    exact builder_run_of_finished _ second name hFinished
  · rw [hRun, query_run_of_finished _ second name hFinished]
    exact query_after_of_finishes t.before name _ hFinishes

/-
  A builder is finished if and only if somebody wanted its
  query or embedded it.  After that the builder stays as it
  is, and everybody gets what was handed out at that time,
  with the faults that the builder still has.  Nothing that
  it is asked changes anything on the desk.  Calls are
  refused because it is finished, and only a builder that is
  finished refuses them for that reason.  But expressions to
  return are looked at before the builder, and if they are
  not all texts, that is the reason given.
-/
theorem finishing_is_final
    (commands : List Command)
    (name : String) :
    let d := fresh.run commands
    ((d.builder name).isFinished = true ↔
        ∃ t ∈ fresh.history commands,
          t.before.Finishes name t.command) ∧
      (∀ t ∈ fresh.history commands,
        t.before.Finishes name t.command →
          let first := (t.before.execute name).2
          d.builder name =
              (t.before.after t.command).builder name ∧
            (d.execute name).2 = first ∧
            (d.build name).2 = delivered first ∧
            first.2 =
              Fault.ofMany? (d.builder name).faults) ∧
      ((d.builder name).isFinished = true →
        (∀ r : Request, (d.ask name r).1 = d) ∧
          ∀ call : Call,
            call.IsUnambiguous →
              d.ask name call.request =
                (d,
                  .refused
                    (if call.returnsTexts then
                        .fault (.finalized call.keyword)
                      else Clause.notExpression))) ∧
      ((d.builder name).isFinished = false →
        ∀ (call : Call) (f : Fault),
          (d.ask name call.request).2.refusal =
              some (.fault f) →
            f.kind? ≠ some .finalized) := by
  intro d
  refine ⟨?_, ?_, ?_, ?_⟩
  · rw [isFinished_run_iff]
    simp [fresh, builder, Record.get?, Builder.empty]
  · intro t hMem hFinishes first
    rcases builder_of_finishing_turn commands name t hMem
        hFinishes with
      ⟨hBuilder, hQuery⟩
    have hExecute : (d.execute name).2 = first := hQuery
    refine ⟨hBuilder, hExecute, ?_, ?_⟩
    · rw [build_snd, hExecute]
    · rw [← hExecute]
      change (d.query name).2 = _
      rw [query_eq]
      rfl
  · intro hFinished
    constructor
    · intro r
      exact desk_of_finished d name r hFinished
    · intro call hUnambiguous
      exact
        ask_of_finished_call d name call hFinished
          hUnambiguous
  · intro hOpen call f hRefused
    exact kind?_of_open_refusal d name call f hOpen hRefused

/-
  A query with a fault is embedded, and only then it is
  wanted, while the query around it stays open.
-/
def lateRun : List Command :=
  [.ask "low" (.add (.ok (.limit (.int 3)))),
    .ask "low" (.add (.ok (.conditions []))),
    .ask "high" (.embed "low"),
    .execute "low",
    .ask "low" (.add (.ok (.union false)))]

/-
  What can be had of both builders after that run.  A call
  for no patterns comes too late for one of them, as do a
  call for nothing and one for two names, a node is not
  rendered any more, and the other builder goes on.
-/
theorem calls_after_lateRun :
    let d := fresh.run lateRun
    let bundle : Fault := .composite [.emptyClause .filtering]
    let node :=
      Call.node (some (.text "A B")) none [("age", .int 7)]
    let names :=
      Call.names [.bare (.text "n"), .bare (.text "")]
    (d.execute "low").2 = ("LIMIT 3", some bundle) ∧
      d.ask "low" (.add (.ok (.patterns .merge []))) =
        (d, .refused (.fault (.finalized .merge))) ∧
      d.ask "low" (.add (.ok (.call .nothing))) =
        (d, .refused (.fault (.finalized .call))) ∧
      d.ask "low" names.request =
        (d, .refused (.fault (.finalized .returning))) ∧
      d.ask "low" node.request =
        (d, .refused (.fault (.finalized .matching))) ∧
      d.ask "low" (.embed "high") =
        (d, .refused (.fault (.finalized .call))) ∧
      ∀ f,
        (d.ask "high" node.request).2.refusal =
            some (.fault f) →
          f.kind? ≠ some .finalized := by
  intro d bundle node names
  rcases finishing_is_final lateRun "low" with
    ⟨hWhen, hLater, hFinal, _⟩
  rcases finishing_is_final lateRun "high" with
    ⟨_, _, _, hOpen⟩
  let t : Turn :=
    { before := fresh.run (lateRun.take 2)
      command := .ask "high" (.embed "low") }
  have hMem : t ∈ fresh.history lateRun :=
    (mem_history_iff fresh lateRun t).mpr
      ⟨lateRun.take 2, lateRun.drop 3, rfl, rfl⟩
  have hFinishes : t.before.Finishes "low" t.command :=
    Or.inr (Or.inr ⟨rfl, by decide⟩)
  have hFinished : (d.builder "low").isFinished = true :=
    hWhen.mpr ⟨t, hMem, hFinishes⟩
  rcases hLater t hMem hFinishes with ⟨_, hFirst, _, _⟩
  rcases hFinal hFinished with ⟨_, hRefused⟩
  have hText : (t.before.execute "low").2.1 = "LIMIT 3" := by
    decide
  have hFault : (t.before.execute "low").2.2 = some bundle :=
    rfl
  have hNode : node.IsUnambiguous := by
    simp [node, Call.IsUnambiguous, Call.reserved,
      Record.get?]
  refine ⟨?_, ?_, ?_, ?_, ?_, ?_, ?_⟩
  · exact hFirst.trans (Prod.ext hText hFault)
  · exact hRefused (.clause (.patterns .merge [])) trivial
  · exact hRefused (.clause (.call .nothing)) trivial
  · exact hRefused names trivial
  · exact hRefused node hNode
  · exact hRefused (.embed "high") trivial
  · exact hOpen rfl node

/-
  Nothing at all is to be returned by a builder that is
  finished: the answer is about the missing text.
-/
theorem returning_nothing_is_no_text :
    let d := fresh.run [.execute "q"]
    let call := Call.names [.nothing]
    let refusal : Refusal :=
      .fields
        [{ field := "expression"
           problem := .notText }]
    (d.builder "q").isFinished = true ∧
      d.ask "q" call.request = (d, .refused refusal) ∧
      refusal ≠ .fault (.finalized call.keyword) := by
  intro d call refusal
  refine ⟨rfl, rfl, ?_⟩
  simp [refusal]

end Desk

end CypherAssembly
