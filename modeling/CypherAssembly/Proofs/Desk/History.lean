import CypherAssembly.Proofs.Desk.Frame

/-
  Histories of desks.

  Key definitions include:
    * `Turn`
    * `Turn.refusal?`
    * `Desk.history`
    * `Desk.CanEmbed`
    * `Desk.Embeds`

  Key theorems include:
    * `Desk.mem_history_iff`
    * `Desk.canEmbed_iff`
    * `Desk.embeds_iff`
    * `Desk.isFinished_after_embed`
    * `Desk.text_after_embed`
    * `Desk.query_run_after_embed`

  A history tells for every command of a run which desk the
  command met.  Commands can be looked at one by one in it,
  and whether they were carried out can be told.
-/

------------------------------------------------------------
-- Turns
------------------------------------------------------------

namespace CypherAssembly

/- A command and the desk that it meets. -/
structure Turn where
  before : Desk
  command : Command

/- Why a request was refused, if it was. -/
def Turn.refusal?
    (t : Turn) : Option Refusal :=
  match t.command with
  | .ask name r => (t.before.ask name r).2.refusal
  | _ => none

namespace Desk

/- The turns of a run. -/
def history
    (d : Desk) : List Command → List Turn
  | [] => []
  | c :: rest =>
      { before := d
        command := c } :: (d.after c).history rest

/- Every turn splits the run that it belongs to. -/
theorem mem_history_iff
    (d : Desk)
    (commands : List Command)
    (t : Turn) :
    t ∈ d.history commands ↔
      ∃ first second,
        commands = first ++ t.command :: second ∧
          t.before = d.run first := by
  induction commands generalizing d with
  | nil => simp [history]
  | cons c rest ih =>
      constructor
      · intro hMem
        rcases List.mem_cons.mp hMem with rfl | hRest
        · exact ⟨[], rest, rfl, rfl⟩
        · rcases (ih (d.after c)).mp hRest with
            ⟨first, second, hSplit, hBefore⟩
          exact
            ⟨c :: first, second,
              congrArg (c :: ·) hSplit, hBefore⟩
      · rintro ⟨first, second, hSplit, hBefore⟩
        rcases t with ⟨before, command⟩
        cases first with
        | nil =>
            simp only [List.nil_append, List.cons.injEq]
              at hSplit
            rcases hSplit with ⟨rfl, rfl⟩
            change before = d at hBefore
            subst hBefore
            exact List.mem_cons_self
        | cons c' first =>
            simp only [List.cons_append, List.cons.injEq]
              at hSplit
            rcases hSplit with ⟨rfl, hRest⟩
            apply List.mem_cons_of_mem
            exact (ih (d.after c)).mpr
              ⟨first, second, hRest, hBefore⟩

end Desk

end CypherAssembly

------------------------------------------------------------
-- Embeddings
------------------------------------------------------------

namespace CypherAssembly

namespace Desk

/- Asked to, `outer` takes in the query of `inner`. -/
def CanEmbed
    (d : Desk)
    (outer inner : String) : Prop :=
  (d.ask outer (.embed inner)).2.clauses = [.call]

instance
    (d : Desk)
    (outer inner : String) :
    Decidable (d.CanEmbed outer inner) := by
  unfold CanEmbed
  infer_instance

/- In a run, `outer` took in the query of `inner`. -/
def Embeds
    (commands : List Command)
    (outer inner : String) : Prop :=
  ∃ t ∈ fresh.history commands,
    t.command = .ask outer (.embed inner) ∧
      t.before.CanEmbed outer inner

/- Open builders take in other builders' queries. -/
theorem canEmbed_iff
    (d : Desk)
    (outer inner : String) :
    d.CanEmbed outer inner ↔
      (d.builder outer).isFinished = false ∧
        inner ≠ outer := by
  unfold CanEmbed
  cases hFinished : (d.builder outer).isFinished with
  | true =>
      simp [ask_embed_of_finished, hFinished,
        Contribution.refused]
  | false =>
      by_cases hSelf : inner = outer
      · subst hSelf
        simp [ask_embed_self, hFinished,
          Contribution.rejected]
      · simp [ask_embed_of_open, hFinished, hSelf,
          Contribution.embedding, Contribution.single]

/- An embedding splits the run into three parts. -/
theorem embeds_iff
    (commands : List Command)
    (outer inner : String) :
    Embeds commands outer inner ↔
      ∃ first second,
        commands =
            first ++ .ask outer (.embed inner) :: second ∧
          (fresh.run first).CanEmbed outer inner := by
  constructor
  · rintro ⟨t, hMem, hCommand, hCan⟩
    rcases (mem_history_iff fresh commands t).mp hMem with
      ⟨first, second, hSplit, hBefore⟩
    rw [hCommand] at hSplit
    rw [hBefore] at hCan
    exact ⟨first, second, hSplit, hCan⟩
  · rintro ⟨first, second, hSplit, hCan⟩
    let t : Turn :=
      { before := fresh.run first
        command := .ask outer (.embed inner) }
    have hMem : t ∈ fresh.history commands :=
      (mem_history_iff fresh commands t).mpr
        ⟨first, second, hSplit, rfl⟩
    exact ⟨t, hMem, rfl, hCan⟩

/- What was embedded is finished from then on. -/
theorem isFinished_after_embed
    (d : Desk)
    (outer inner : String)
    (hCan : d.CanEmbed outer inner) :
    ((d.after (.ask outer (.embed inner))).builder
      inner).isFinished = true := by
  rcases (canEmbed_iff d outer inner).mp hCan with
    ⟨hOpen, hNe⟩
  change ((d.ask outer _).1.builder inner).isFinished = true
  rw [builder_ask_embedded d outer inner hOpen hNe]
  exact Builder.isFinished_finish _

/- The builder that embeds another one stays open. -/
theorem isOpen_after_embed
    (d : Desk)
    (outer inner : String)
    (hCan : d.CanEmbed outer inner) :
    ((d.after (.ask outer (.embed inner))).builder
      outer).isFinished = false := by
  rcases (canEmbed_iff d outer inner).mp hCan with
    ⟨hOpen, _⟩
  change ((d.ask outer _).1.builder outer).isFinished = false
  rw [builder_ask_self, Builder.isFinished_take, hOpen]

/- An embedding puts the final text in a CALL block. -/
theorem text_after_embed
    (d : Desk)
    (outer inner : String)
    (hCan : d.CanEmbed outer inner) :
    ((d.after (.ask outer (.embed inner))).builder
        outer).text =
      (d.builder outer).text ++
        Block.call (d.finalText inner) := by
  rcases (canEmbed_iff d outer inner).mp hCan with
    ⟨hOpen, hNe⟩
  change ((d.ask outer (.embed inner)).1.builder outer).text = _
  rw [builder_ask_self, ask_embed_of_open d outer inner hOpen hNe]
  rfl

/- What was handed out when embedding is handed out later. -/
theorem query_after_embed
    (d : Desk)
    (outer inner : String)
    (hCan : d.CanEmbed outer inner) :
    (d.after (.ask outer (.embed inner))).query inner =
      d.query inner := by
  rcases (canEmbed_iff d outer inner).mp hCan with
    ⟨hOpen, hNe⟩
  change (d.ask outer (.embed inner)).1.query inner = _
  rw [query_eq, query_eq,
    builder_ask_embedded d outer inner hOpen hNe,
    Builder.finish_finish]
  simp [Builder.fault?]

/- So it is at any later time. -/
theorem query_run_after_embed
    (d : Desk)
    (outer inner : String)
    (later : List Command)
    (hCan : d.CanEmbed outer inner) :
    ((d.after (.ask outer (.embed inner))).run later).query
        inner =
      d.query inner := by
  rw [query_run_of_finished _ later inner
    (isFinished_after_embed d outer inner hCan),
    query_after_embed d outer inner hCan]

end Desk

end CypherAssembly
