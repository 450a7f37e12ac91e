import CypherAssembly.Desk.Command

/-
  What commands do to the builders on a desk.

  Key theorems include:
    * `Desk.ask_embed_of_open`
    * `Desk.builder_ask_self`
    * `Desk.builder_ask_embedded`
    * `Desk.ask_cases`
    * `Desk.builder_after_of_untouched`
    * `Desk.builder_after_of_not_asked`
    * `Desk.builder_after_of_finished`
    * `Desk.builder_run_of_finished`
    * `Desk.query_run_of_finished`

  A command changes the builder that it is addressed to, and
  an embedding finishes the builder that is embedded.  All
  other builders stay as they are, and so does every builder
  that is finished, whatever is wanted of it.
-/

------------------------------------------------------------
-- Builders
------------------------------------------------------------

namespace CypherAssembly

namespace Builder

/- A refusal by itself adds nothing. -/
@[simp] theorem take_refused
    (b : Builder)
    (r : Refusal) :
    b.take (.refused r) = b := by
  simp [take, Contribution.refused]

/- Taking something in does not finish a builder. -/
@[simp] theorem isFinished_take
    (b : Builder)
    (x : Contribution) :
    (b.take x).isFinished = b.isFinished := rfl

/- A finished builder stays as it is. -/
theorem finish_of_finished
    (b : Builder)
    (hFinished : b.isFinished = true) :
    b.finish = b := by
  simp [finish, hFinished]

/- Finishing takes a newline off the end of the text. -/
theorem finish_of_open
    (b : Builder)
    (hOpen : b.isFinished = false) :
    b.finish =
      { b with
        text := trimSuffix "\n" b.text
        isFinished := true } := by
  simp [finish, hOpen]

/- Finishing a builder finishes it. -/
@[simp] theorem isFinished_finish
    (b : Builder) :
    b.finish.isFinished = true := by
  unfold finish
  split <;> simp_all

/- Finishing keeps the clauses. -/
@[simp] theorem clauses_finish
    (b : Builder) :
    b.finish.clauses = b.clauses := by
  unfold finish
  split <;> rfl

/- Finishing keeps the faults. -/
@[simp] theorem faults_finish
    (b : Builder) :
    b.finish.faults = b.faults := by
  unfold finish
  split <;> rfl

end Builder

end CypherAssembly

------------------------------------------------------------
-- Requests
------------------------------------------------------------

namespace CypherAssembly

namespace Desk

/- An open builder answers with what a clause contributes. -/
theorem ask_add_of_open
    (d : Desk)
    (name : String)
    (c : Clause)
    (hOpen : (d.builder name).isFinished = false) :
    (d.ask name (.add (.ok c))).2 = c.contribution := by
  simp [ask, add, Builder.answer, hOpen]

/- A finished builder refuses every clause. -/
theorem ask_add_of_finished
    (d : Desk)
    (name : String)
    (c : Clause)
    (hFinished : (d.builder name).isFinished = true) :
    (d.ask name (.add (.ok c))).2 =
      .refused (.fault (.finalized c.keyword)) := by
  simp [ask, add, Builder.answer, hFinished]

/- A finished builder embeds nothing. -/
theorem ask_embed_of_finished
    (d : Desk)
    (outer inner : String)
    (hFinished : (d.builder outer).isFinished = true) :
    d.ask outer (.embed inner) =
      (d, .refused (.fault (.finalized .call))) := by
  simp [ask, embed, hFinished]

/- A builder that is asked to embed itself rejects it. -/
theorem ask_embed_self
    (d : Desk)
    (name : String)
    (hOpen : (d.builder name).isFinished = false) :
    d.ask name (.embed name) =
      (d.take name .call (.rejected .selfEmbedding),
        .rejected .selfEmbedding) := by
  simp [ask, embed, hOpen]

/-
  An open builder embeds the query of another one.  What it
  takes in is what the other one hands out.
-/
theorem ask_embed_of_open
    (d : Desk)
    (outer inner : String)
    (hOpen : (d.builder outer).isFinished = false)
    (hNe : inner ≠ outer) :
    d.ask outer (.embed inner) =
      ((d.finish inner).take outer .call
          (.embedding (d.finalText inner) (d.query inner).2),
        .embedding (d.finalText inner) (d.query inner).2) := by
  simp [ask, embed, finalText, query, execute, hOpen, hNe]

end Desk

end CypherAssembly

------------------------------------------------------------
-- One Command
------------------------------------------------------------

namespace CypherAssembly

namespace Desk

/- A builder takes in what it answers. -/
theorem builder_ask_self
    (d : Desk)
    (name : String)
    (r : Request) :
    (d.ask name r).1.builder name =
      (d.builder name).take (d.ask name r).2 := by
  rcases r with (refusal | c) | inner
  · simp [ask]
  · exact builder_take_self d name _ _
  · cases hFinished : (d.builder name).isFinished with
    | true => simp [ask_embed_of_finished, hFinished]
    | false =>
        by_cases hSelf : inner = name
        · subst hSelf
          simp only [ask_embed_self d inner hFinished]
          exact builder_take_self d inner _ _
        · simp only [
            ask_embed_of_open d name inner hFinished hSelf]
          rw [builder_take_self,
            builder_finish_of_ne d inner name
              (Ne.symm hSelf)]

/- A builder is finished when an open one embeds it. -/
theorem builder_ask_embedded
    (d : Desk)
    (outer inner : String)
    (hOpen : (d.builder outer).isFinished = false)
    (hNe : inner ≠ outer) :
    (d.ask outer (.embed inner)).1.builder inner =
      (d.builder inner).finish := by
  rw [ask_embed_of_open d outer inner hOpen hNe,
    builder_take_of_ne _ _ _ _ _ hNe, builder_finish_self]

/- Requests to a builder do not change any other builder. -/
theorem builder_ask_of_ne
    (d : Desk)
    (name other : String)
    (r : Request)
    (hNe : other ≠ name)
    (hNot :
      ¬ (r = .embed other ∧
        (d.builder name).isFinished = false)) :
    (d.ask name r).1.builder other = d.builder other := by
  rcases r with (refusal | c) | inner
  · rfl
  · exact builder_take_of_ne d name other _ _ hNe
  · cases hFinished : (d.builder name).isFinished with
    | true => rw [ask_embed_of_finished _ _ _ hFinished]
    | false =>
        have hOther : other ≠ inner := by
          rintro rfl
          exact hNot ⟨rfl, hFinished⟩
        by_cases hSelf : inner = name
        · subst hSelf
          rw [ask_embed_self d inner hFinished]
          exact builder_take_of_ne _ _ _ _ _ hNe
        · rw [ask_embed_of_open d name inner hFinished hSelf,
            builder_take_of_ne _ _ _ _ _ hNe,
            builder_finish_of_ne d inner other hOther]

/-
  A command leaves a builder alone that it is not addressed
  to, unless an open builder is asked to embed it.
-/
theorem builder_after_of_untouched
    (d : Desk)
    (c : Command)
    (other : String)
    (hNe : other ≠ c.subject)
    (hNot :
      ¬ (c = .ask c.subject (.embed other) ∧
        (d.builder c.subject).isFinished = false)) :
    (d.after c).builder other = d.builder other := by
  cases c with
  | ask name r =>
      apply builder_ask_of_ne d name other r hNe
      rintro ⟨rfl, hOpen⟩
      exact hNot ⟨rfl, hOpen⟩
  | execute name =>
      exact builder_finish_of_ne d name other hNe
  | build name =>
      rw [after_build]
      exact builder_finish_of_ne d name other hNe

/-
  A builder that a command asks nothing of is finished by it
  or stays as it is.
-/
theorem builder_after_of_not_asked
    (d : Desk)
    (c : Command)
    (name : String)
    (hNot : ∀ r, c ≠ .ask name r) :
    (d.after c).builder name = (d.builder name).finish ∨
      (d.after c).builder name = d.builder name := by
  by_cases hSelf : name = c.subject
  · left
    subst hSelf
    cases c with
    | ask name r => exact absurd rfl (hNot r)
    | execute name => exact builder_finish_self d name
    | build name =>
        rw [after_build]
        exact builder_finish_self d name
  · by_cases hEmbedded :
        c = .ask c.subject (.embed name) ∧
          (d.builder c.subject).isFinished = false
    · left
      rcases hEmbedded with ⟨hCommand, hOpen⟩
      rw [hCommand]
      exact builder_ask_embedded d c.subject name hOpen hSelf
    · right
      exact
        builder_after_of_untouched d c name hSelf hEmbedded

end Desk

end CypherAssembly

------------------------------------------------------------
-- Finished Builders
------------------------------------------------------------

namespace CypherAssembly

namespace Desk

/- A finished builder answers requests with refusals alone. -/
theorem ask_of_finished
    (d : Desk)
    (name : String)
    (r : Request)
    (hFinished : (d.builder name).isFinished = true) :
    ∃ refusal, (d.ask name r).2 = .refused refusal := by
  rcases r with (refusal | c) | inner
  · exact ⟨refusal, rfl⟩
  · exact ⟨_, ask_add_of_finished d name c hFinished⟩
  · exact ⟨_, congrArg Prod.snd
      (ask_embed_of_finished d name inner hFinished)⟩

/-
  A request is refused, or it is answered with what a clause
  contributes or with an embedded query.
-/
theorem ask_cases
    (d : Desk)
    (name : String)
    (r : Request) :
    (∃ refusal, (d.ask name r).2 = .refused refusal) ∨
      (∃ c,
        r = .add (.ok c) ∧
          (d.ask name r).2 = c.contribution) ∨
      (r = .embed name ∧
        (d.ask name r).2 = .rejected .selfEmbedding) ∨
      ∃ inner,
        inner ≠ name ∧
          r = .embed inner ∧
          (d.ask name r).2 =
            .embedding (d.finalText inner)
              (d.query inner).2 := by
  cases hFinished : (d.builder name).isFinished with
  | true => exact Or.inl (ask_of_finished d name r hFinished)
  | false =>
      rcases r with (refusal | c) | inner
      · exact Or.inl ⟨refusal, rfl⟩
      · right; left
        rw [ask_add_of_open d name c hFinished]
        exact ⟨c, rfl, rfl⟩
      · by_cases hSelf : inner = name
        · subst hSelf
          right; right; left
          rw [ask_embed_self d inner hFinished]
          exact ⟨rfl, rfl⟩
        · right; right; right
          rw [ask_embed_of_open d name inner hFinished hSelf]
          exact ⟨inner, hSelf, rfl, rfl⟩

/- No command changes a finished builder. -/
theorem builder_after_of_finished
    (d : Desk)
    (c : Command)
    (name : String)
    (hFinished : (d.builder name).isFinished = true) :
    (d.after c).builder name = d.builder name := by
  by_cases hAsked : ∃ r, c = .ask name r
  · rcases hAsked with ⟨r, rfl⟩
    rcases ask_of_finished d name r hFinished with
      ⟨refusal, hAnswer⟩
    change (d.ask name r).1.builder name = _
    rw [builder_ask_self, hAnswer, Builder.take_refused]
  · rcases builder_after_of_not_asked d c name
        (fun r hCommand => hAsked ⟨r, hCommand⟩) with
      hFinish | hSame
    · rw [hFinish, Builder.finish_of_finished _ hFinished]
    · exact hSame

/- No run changes a finished builder. -/
theorem builder_run_of_finished
    (d : Desk)
    (commands : List Command)
    (name : String)
    (hFinished : (d.builder name).isFinished = true) :
    (d.run commands).builder name = d.builder name := by
  induction commands generalizing d with
  | nil => rfl
  | cons c rest ih =>
      have hAfter :=
        builder_after_of_finished d c name hFinished
      have hRest := ih (d.after c) (by rw [hAfter, hFinished])
      exact hRest.trans hAfter

/- A finished builder always hands out the same. -/
theorem query_run_of_finished
    (d : Desk)
    (commands : List Command)
    (name : String)
    (hFinished : (d.builder name).isFinished = true) :
    (d.run commands).query name = d.query name := by
  simp only [query_eq,
    builder_run_of_finished d commands name hFinished]

end Desk

end CypherAssembly
