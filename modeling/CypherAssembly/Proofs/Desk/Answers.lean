import CypherAssembly.Proofs.Clause.Refused
import CypherAssembly.Proofs.Desk.Frame
import CypherAssembly.Proofs.Text.Lines

/-
  What a builder collects in a run.

  Key definitions include:
    * `Command.requestTo?`
    * `Desk.requestsTo`
    * `Desk.answers`

  Key theorems include:
    * `Desk.answers_append`
    * `Desk.finalText_run_of_open`
    * `Desk.isEnded_join_answers`

  The text of a query is made of the answers that its
  builder gave to the requests to it.  It does not matter
  when the query was finished: from then on, all answers are
  empty.
-/

------------------------------------------------------------
-- Requests and Answers
------------------------------------------------------------

namespace CypherAssembly

/- What a command asks the builder of a name for. -/
def Command.requestTo?
    (name : String) : Command → Option Request
  | ask subject r => if subject = name then some r else none
  | execute _ => none
  | build _ => none

theorem Command.requestTo?_eq_some_iff
    (name : String)
    (c : Command)
    (r : Request) :
    c.requestTo? name = some r ↔ c = .ask name r := by
  cases c with
  | ask subject other =>
      by_cases hSelf : subject = name
      · simp [requestTo?, hSelf]
      · simp [requestTo?, hSelf]
  | execute subject => simp [requestTo?]
  | build subject => simp [requestTo?]

namespace Desk

/- All requests to the builder of a name, in order. -/
def requestsTo
    (name : String)
    (commands : List Command) : List Request :=
  commands.filterMap (Command.requestTo? name)

/- What the builder of a name answers to them in a run. -/
def answers
    (d : Desk)
    (name : String) : List Command → List Contribution
  | [] => []
  | c :: rest =>
      match c.requestTo? name with
      | some r =>
          (d.ask name r).2 :: (d.after c).answers name rest
      | none => (d.after c).answers name rest

theorem answers_cons_ask
    (d : Desk)
    (name : String)
    (r : Request)
    (rest : List Command) :
    d.answers name (.ask name r :: rest) =
      (d.ask name r).2 ::
        (d.after (.ask name r)).answers name rest := by
  simp [answers, Command.requestTo?]

theorem answers_append
    (d : Desk)
    (name : String)
    (first second : List Command) :
    d.answers name (first ++ second) =
      d.answers name first ++
        (d.run first).answers name second := by
  induction first generalizing d with
  | nil => rfl
  | cons c first ih =>
      rw [List.cons_append, answers, answers, run_cons, ih]
      split
      · rfl
      · rfl

/- Every answer is given at some time of the run. -/
theorem exists_ask_of_mem_answers
    (d : Desk)
    (name : String)
    (commands : List Command)
    (x : Contribution)
    (hMem : x ∈ d.answers name commands) :
    ∃ (first : List Command) (r : Request),
      x = ((d.run first).ask name r).2 := by
  induction commands generalizing d with
  | nil => cases hMem
  | cons c rest ih =>
      have hLater :
          x ∈ (d.after c).answers name rest →
            ∃ (first : List Command) (r : Request),
              x = ((d.run first).ask name r).2 := by
        intro hRest
        rcases ih (d.after c) hRest with ⟨first, r, hAnswer⟩
        exact ⟨c :: first, r, hAnswer⟩
      unfold answers at hMem
      split at hMem
      · rename_i r _
        rcases List.mem_cons.mp hMem with hHere | hRest
        · exact ⟨[], r, hHere⟩
        · exact hLater hRest
      · exact hLater hMem

end Desk

end CypherAssembly

------------------------------------------------------------
-- Collected Text
------------------------------------------------------------

namespace CypherAssembly

namespace Desk

/- A finished builder has nothing to add to its text. -/
theorem join_answers_of_finished
    (d : Desk)
    (name : String)
    (commands : List Command)
    (hFinished : (d.builder name).isFinished = true) :
    String.join
        ((d.answers name commands).map (·.text)) = "" := by
  rw [join_eq_empty_iff]
  intro text hMem
  rcases List.mem_map.mp hMem with ⟨x, hAnswer, rfl⟩
  rcases exists_ask_of_mem_answers d name commands x hAnswer
    with ⟨first, r, rfl⟩
  have hStill :
      ((d.run first).builder name).isFinished = true := by
    rw [builder_run_of_finished d first name hFinished,
      hFinished]
  rcases ask_of_finished _ name r hStill with
    ⟨refusal, hRefused⟩
  rw [hRefused]
  rfl

/-
  An open builder collects the texts of its answers, and
  finishing it takes one newline off the end.
-/
theorem finalText_run_of_open
    (d : Desk)
    (name : String)
    (commands : List Command)
    (hOpen : (d.builder name).isFinished = false) :
    (d.run commands).finalText name =
      trimSuffix "\n"
        ((d.builder name).text ++
          String.join
            ((d.answers name commands).map (·.text))) := by
  induction commands generalizing d with
  | nil =>
      simp [run, answers, finalText_eq,
        Builder.finish_of_open _ hOpen]
  | cons c rest ih =>
      rw [run_cons]
      cases hRequest : c.requestTo? name with
      | some r =>
          have hAsked : c = .ask name r :=
            (c.requestTo?_eq_some_iff name r).mp hRequest
          subst hAsked
          have hBuilder :
              (d.after (.ask name r)).builder name =
                (d.builder name).take (d.ask name r).2 :=
            builder_ask_self d name r
          have hStillOpen :
              ((d.after (.ask name r)).builder
                name).isFinished = false := by
            rw [hBuilder, Builder.isFinished_take, hOpen]
          rw [ih _ hStillOpen, hBuilder, answers_cons_ask,
            List.map_cons, String.join_cons,
            ← String.append_assoc]
          rfl
      | none =>
          have hNot : ∀ r, c ≠ .ask name r := by
            rintro r rfl
            simp [Command.requestTo?] at hRequest
          have hAnswers :
              d.answers name (c :: rest) =
                (d.after c).answers name rest := by
            rw [answers, hRequest]
          rw [hAnswers]
          -- if this finishes the builder, nothing is added later
          rcases builder_after_of_not_asked d c name hNot with
            hFinish | hSame
          · have hFinished :
                ((d.after c).builder name).isFinished =
                  true := by
              rw [hFinish, Builder.isFinished_finish]
            rw [join_answers_of_finished _ _ _ hFinished,
              finalText_eq,
              builder_run_of_finished _ rest name hFinished,
              hFinish, Builder.finish_finish,
              Builder.finish_of_open _ hOpen,
              String.append_empty]
          · rw [← hSame]
            exact ih _ (by rw [hSame, hOpen])

/- What a request adds is made of whole lines. -/
theorem isEnded_ask
    (d : Desk)
    (name : String)
    (r : Request) :
    IsEnded (d.ask name r).2.text := by
  rcases ask_cases d name r with
    ⟨refusal, hAnswer⟩ | ⟨c, _, hAnswer⟩ | ⟨_, hAnswer⟩ |
      ⟨inner, _, _, hAnswer⟩
  · rw [hAnswer]
    exact isEnded_empty
  · rw [hAnswer]
    exact c.isEnded_contribution
  · rw [hAnswer]
    exact isEnded_empty
  · rw [hAnswer]
    exact Block.isEnded_call _

theorem isEnded_join_answers
    (d : Desk)
    (name : String)
    (commands : List Command) :
    IsEnded
      (String.join
        ((d.answers name commands).map (·.text))) := by
  apply isEnded_join
  intro text hMem
  rcases List.mem_map.mp hMem with ⟨x, hAnswer, rfl⟩
  rcases exists_ask_of_mem_answers d name commands x hAnswer
    with ⟨first, r, rfl⟩
  exact isEnded_ask (d.run first) name r

end Desk

end CypherAssembly
