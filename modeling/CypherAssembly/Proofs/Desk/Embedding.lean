import Mathlib.Logic.Relation
import CypherAssembly.Proofs.Desk.History
import CypherAssembly.Proofs.Text.Ended

/-
  Embedded queries and the builders around them.

  Key definitions include:
    * `Desk.openFor`
    * `Desk.IsEmbedding`
    * `Builder.IsFinishedFrom`

  Key theorems include:
    * `Desk.openFor_lt_of_embeds`
    * `Desk.embeds_acyclic`
    * `Desk.isFinishedFrom_after_embedding`
    * `Desk.embedding_and_isolation`

  A builder is open when it embeds another one, and it stays
  open, while the other one is finished by that.  So every
  builder is finished before the builders that embed it, and
  no chain of embeddings leads back to where it started.
-/

------------------------------------------------------------
-- The Order of Finishing
------------------------------------------------------------

namespace CypherAssembly

namespace Desk

/- The number of commands that leave a builder open. -/
def openFor
    (d : Desk)
    (name : String) : List Command → Nat
  | [] => 0
  | c :: rest =>
      if ((d.after c).builder name).isFinished then 0
      else (d.after c).openFor name rest + 1

/- A builder that is open now was open all the time. -/
theorem length_le_openFor_of_open
    (d : Desk)
    (name : String)
    (first second : List Command)
    (hOpen :
      ((d.run first).builder name).isFinished = false) :
    first.length ≤ d.openFor name (first ++ second) := by
  induction first generalizing d with
  | nil => simp
  | cons c first ih =>
      cases hAfter :
          ((d.after c).builder name).isFinished with
      | true =>
          have hSame :=
            builder_run_of_finished _ first name hAfter
          rw [run_cons, hSame, hAfter] at hOpen
          cases hOpen
      | false =>
          have hRest := ih (d.after c) hOpen
          simp only [List.cons_append, openFor, hAfter,
            Bool.false_eq_true, if_false, List.length_cons]
          omega

/- A builder that is finished now was open for less time. -/
theorem openFor_lt_length_of_finished
    (d : Desk)
    (name : String)
    (first second : List Command)
    (hSome : first ≠ [])
    (hFinished :
      ((d.run first).builder name).isFinished = true) :
    d.openFor name (first ++ second) < first.length := by
  induction first generalizing d with
  | nil => exact absurd rfl hSome
  | cons c first ih =>
      cases hAfter :
          ((d.after c).builder name).isFinished with
      | true => simp [openFor, hAfter]
      | false =>
          have hFirst : first ≠ [] := by
            rintro rfl
            change ((d.after c).builder name).isFinished =
              true at hFinished
            rw [hAfter] at hFinished
            cases hFinished
          have hRest := ih (d.after c) hFirst hFinished
          simp only [List.cons_append, openFor, hAfter,
            Bool.false_eq_true, if_false, List.length_cons]
          omega

/- What is embedded is finished first. -/
theorem openFor_lt_of_embeds
    (commands : List Command)
    (outer inner : String)
    (hEmbeds : Embeds commands outer inner) :
    fresh.openFor inner commands <
      fresh.openFor outer commands := by
  rcases (embeds_iff commands outer inner).mp hEmbeds with
    ⟨first, second, hSplit, hCan⟩
  let c : Command := .ask outer (.embed inner)
  have hCommands : commands = (first ++ [c]) ++ second := by
    simp [hSplit, c]
  have hRun :
      fresh.run (first ++ [c]) =
        (fresh.run first).after c := by
    rw [run_append]
    rfl
  -- right after the embedding, the inner builder is finished
  -- and the outer one is not
  have hInner :
      fresh.openFor inner commands < (first ++ [c]).length := by
    rw [hCommands]
    apply openFor_lt_length_of_finished
    · simp
    · rw [hRun]
      exact isFinished_after_embed _ outer inner hCan
  have hOuter :
      (first ++ [c]).length ≤ fresh.openFor outer commands := by
    rw [hCommands]
    apply length_le_openFor_of_open
    rw [hRun]
    exact isOpen_after_embed _ outer inner hCan
  omega

/- No query ends up inside itself. -/
theorem embeds_acyclic
    (commands : List Command)
    (name : String) :
    ¬ Relation.TransGen (Embeds commands) name name := by
  have hLess :
      ∀ outer inner,
        Relation.TransGen (Embeds commands) outer inner →
          fresh.openFor inner commands <
            fresh.openFor outer commands := by
    intro outer inner hChain
    induction hChain with
    | single hEmbeds =>
        exact openFor_lt_of_embeds commands _ _ hEmbeds
    | tail _ hEmbeds ih =>
        have hLast :=
          openFor_lt_of_embeds commands _ _ hEmbeds
        exact Nat.lt_trans hLast ih
  intro hCycle
  exact Nat.lt_irrefl _ (hLess name name hCycle)

end Desk

end CypherAssembly

------------------------------------------------------------
-- Isolation
------------------------------------------------------------

namespace CypherAssembly

namespace Builder

/-
  A builder was finished, and a newline at the end of the
  text is all that this took away.
-/
structure IsFinishedFrom
    (new old : Builder) : Prop where
  isFinished : new.isFinished = true
  clauses : new.clauses = old.clauses
  faults : new.faults = old.faults
  text : new.text = old.text ∨ new.text ++ "\n" = old.text

/- That is what finishing a builder does. -/
theorem isFinishedFrom_finish
    (b : Builder) :
    b.finish.IsFinishedFrom b where
  isFinished := isFinished_finish b
  clauses := clauses_finish b
  faults := faults_finish b
  text := by
    cases hFinished : b.isFinished with
    | true =>
        left
        rw [finish_of_finished b hFinished]
    | false =>
        rw [finish_of_open b hFinished]
        exact trimSuffix_eq_or "\n" b.text

end Builder

namespace Desk

/- A command by which an open builder embeds another one. -/
def IsEmbedding
    (d : Desk)
    (c : Command)
    (inner : String) : Prop :=
  c = .ask c.subject (.embed inner) ∧
    (d.builder c.subject).isFinished = false

/- An embedding finishes the builder that is embedded. -/
theorem isFinishedFrom_after_embedding
    (d : Desk)
    (c : Command)
    (inner : String)
    (hNe : inner ≠ c.subject)
    (hEmbedding : d.IsEmbedding c inner) :
    ((d.after c).builder inner).IsFinishedFrom
      (d.builder inner) := by
  rcases hEmbedding with ⟨hCommand, hOpen⟩
  have hBuilder :
      (d.after c).builder inner =
        (d.builder inner).finish := by
    rw [hCommand]
    exact builder_ask_embedded d c.subject inner hOpen hNe
  rw [hBuilder]
  exact Builder.isFinishedFrom_finish _

/- A builder that is to embed itself finishes nothing. -/
theorem isFinished_after_embed_self
    (d : Desk)
    (name other : String) :
    ((d.after (.ask name (.embed name))).builder
        other).isFinished =
      (d.builder other).isFinished := by
  change ((d.ask name _).1.builder other).isFinished = _
  by_cases hSelf : other = name
  · subst hSelf
    rw [builder_ask_self, Builder.isFinished_take]
  · rw [builder_ask_of_ne d name other _ hSelf]
    rintro ⟨hRequest, _⟩
    exact hSelf (Request.embed.inj hRequest).symm

/-
  No query ends up inside itself.  What is embedded is what
  the other builder hands out, at that time and at any later
  time.  Commands leave all builders alone but the one they
  are addressed to, except that embedded builders are
  finished.  Nothing is embedded or finished by a request to
  a finished builder, or by one to embed itself.
-/
theorem embedding_and_isolation
    (commands : List Command) :
    let d := fresh.run commands
    (∀ name,
        ¬ Relation.TransGen (Embeds commands) name name) ∧
      (∀ outer inner,
        d.CanEmbed outer inner →
          let next := d.after (.ask outer (.embed inner))
          (next.builder outer).text =
              (d.builder outer).text ++
                Block.call (d.finalText inner) ∧
            ∀ later,
              (next.run later).query inner =
                d.query inner) ∧
      (∀ c other,
        other ≠ c.subject →
          (d.IsEmbedding c other →
              ((d.after c).builder other).IsFinishedFrom
                (d.builder other)) ∧
            (¬ d.IsEmbedding c other →
              (d.after c).builder other =
                d.builder other)) ∧
      (∀ outer inner,
        (d.builder outer).isFinished = true →
          d.ask outer (.embed inner) =
            (d, .refused (.fault (.finalized .call)))) ∧
      (∀ name,
        (d.builder name).isFinished = false →
          (d.ask name (.embed name)).2 =
              .rejected .selfEmbedding ∧
            ∀ other,
              ((d.after (.ask name (.embed name))).builder
                  other).isFinished =
                (d.builder other).isFinished) := by
  intro d
  refine ⟨?_, ?_, ?_, ?_, ?_⟩
  · exact embeds_acyclic commands
  · intro outer inner hCan
    constructor
    · exact text_after_embed d outer inner hCan
    · intro later
      exact query_run_after_embed d outer inner later hCan
  · intro c other hNe
    constructor
    · intro hEmbedding
      exact
        isFinishedFrom_after_embedding d c other hNe
          hEmbedding
    · intro hNot
      exact builder_after_of_untouched d c other hNe hNot
  · intro outer inner hFinished
    exact ask_embed_of_finished d outer inner hFinished
  · intro name hOpen
    constructor
    · rw [ask_embed_self d name hOpen]
    · intro other
      exact isFinished_after_embed_self d name other

/- A query that is handed out and embedded in another one. -/
def sharedRun : List Command :=
  [.ask "low" (.add (.ok (.limit (.int 3)))),
    .execute "low",
    .ask "middle" (.embed "low"),
    .ask "middle" (.add (.ok (.union true)))]

/-
  What another builder embeds after that run.  The request
  finishes nothing but the embedded query.
-/
theorem embedding_after_sharedRun :
    let d := fresh.run sharedRun
    let c := Command.ask "high" (.embed "middle")
    d.CanEmbed "high" "middle" ∧
      ((d.after c).builder "high").text =
        "CALL \x7b\n  CALL \x7b\n    LIMIT 3\n  \x7d\n  " ++
          "UNION ALL\n\x7d\n" ∧
      ((d.after c).builder "middle").IsFinishedFrom
        (d.builder "middle") ∧
      (d.after c).builder "low" = d.builder "low" := by
  intro d c
  rcases embedding_and_isolation sharedRun with
    ⟨_, hBlock, hFrame, _, _⟩
  have hCan : d.CanEmbed "high" "middle" := by
    decide
  have hText := (hBlock "high" "middle" hCan).1
  have hMiddle := (hFrame c "middle" (by decide)).1
  have hLow := (hFrame c "low" (by decide)).2
  refine ⟨hCan, ?_, ?_, ?_⟩
  · exact hText.trans (by decide)
  · exact hMiddle ⟨rfl, by decide⟩
  · apply hLow
    rintro ⟨hCommand, _⟩
    simp [c, Command.subject] at hCommand

end Desk

end CypherAssembly
