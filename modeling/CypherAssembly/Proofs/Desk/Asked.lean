import CypherAssembly.Proofs.Desk.Answers
import CypherAssembly.Proofs.Desk.History

/-
  What a builder is asked for in a run.

  Key definitions include:
    * `Asked`
    * `Asked.answer`
    * `Asked.embedded?`
    * `Desk.asked`

  Key theorems include:
    * `Desk.answers_eq_map_asked`
    * `Desk.faults_run`
    * `Desk.clauses_run`
    * `Desk.embeds_iff_asked`
    * `Desk.answer_of_embedded`
    * `Desk.answer_cases`

  Clauses and faults of a query are what the answers to all
  requests brought along, one behind the other.  It does not
  matter for them when the query was finished.
-/

------------------------------------------------------------
-- Requests and the Desks They Meet
------------------------------------------------------------

namespace CypherAssembly

/- A request to a builder and the desk that it meets. -/
structure Asked where
  before : Desk
  request : Request

namespace Asked

/- What the builder of a name answers. -/
def answer
    (name : String)
    (a : Asked) : Contribution :=
  (a.before.ask name a.request).2

/- The query that the builder of a name embeds, if any. -/
def embedded?
    (name : String)
    (a : Asked) : Option String :=
  match a.request with
  | .add _ => none
  | .embed inner =>
      if a.before.CanEmbed name inner then some inner
      else none

theorem embedded?_eq_some_iff
    (name inner : String)
    (a : Asked) :
    a.embedded? name = some inner ↔
      a.request = .embed inner ∧
        a.before.CanEmbed name inner := by
  rcases a with ⟨before, clause | other⟩
  · simp [embedded?]
  · by_cases hCan : before.CanEmbed name other
    · simp only [embedded?, hCan, if_true,
        Option.some.injEq, Request.embed.injEq]
      constructor
      · rintro rfl
        exact ⟨rfl, hCan⟩
      · exact fun h => h.1
    · simp only [embedded?, hCan, if_false,
        Request.embed.injEq]
      constructor
      · intro hNone
        cases hNone
      · rintro ⟨rfl, hOther⟩
        exact absurd hOther hCan

end Asked

/- What a turn asks of the builder of a name, if anything. -/
def Turn.asked?
    (name : String)
    (t : Turn) : Option Asked :=
  (t.command.requestTo? name).map fun r =>
    { before := t.before
      request := r }

namespace Desk

/- All that is asked of the builder of a name in a run. -/
def asked
    (d : Desk)
    (name : String)
    (commands : List Command) : List Asked :=
  (d.history commands).filterMap (Turn.asked? name)

theorem asked_cons
    (d : Desk)
    (name : String)
    (c : Command)
    (rest : List Command) :
    d.asked name (c :: rest) =
      ((c.requestTo? name).map (Asked.mk d)).toList ++
        (d.after c).asked name rest := by
  rw [asked, history, List.filterMap_cons]
  cases hRequest : c.requestTo? name with
  | none => simp [Turn.asked?, hRequest, asked]
  | some r => simp [Turn.asked?, hRequest, asked]

/- The answers of a builder are those to what is asked. -/
theorem answers_eq_map_asked
    (d : Desk)
    (name : String)
    (commands : List Command) :
    d.answers name commands =
      (d.asked name commands).map (Asked.answer name) := by
  induction commands generalizing d with
  | nil => rfl
  | cons c rest ih =>
      rw [asked_cons, answers]
      cases hRequest : c.requestTo? name with
      | none => simp [ih]
      | some r => simp [ih, Asked.answer]

/- The requests of a run are all that is asked in it. -/
theorem requestsTo_eq_map_asked
    (d : Desk)
    (name : String)
    (commands : List Command) :
    requestsTo name commands =
      (d.asked name commands).map (·.request) := by
  induction commands generalizing d with
  | nil => rfl
  | cons c rest ih =>
      rw [asked_cons, requestsTo, List.filterMap_cons]
      cases hRequest : c.requestTo? name with
      | none => simpa [requestsTo] using ih (d.after c)
      | some r => simpa [requestsTo] using ih (d.after c)

theorem mem_asked_iff
    (d : Desk)
    (name : String)
    (commands : List Command)
    (a : Asked) :
    a ∈ d.asked name commands ↔
      { before := a.before
        command := .ask name a.request } ∈
          d.history commands := by
  rw [asked, List.mem_filterMap]
  constructor
  · rintro ⟨⟨before, command⟩, hTurn, hAsked⟩
    rcases Option.map_eq_some_iff.mp hAsked with
      ⟨r, hRequest, rfl⟩
    rw [Command.requestTo?_eq_some_iff] at hRequest
    change command = _ at hRequest
    subst hRequest
    exact hTurn
  · intro hTurn
    exact ⟨_, hTurn, by simp [Turn.asked?, Command.requestTo?]⟩

end Desk

end CypherAssembly

------------------------------------------------------------
-- Clauses and Faults After a Run
------------------------------------------------------------

namespace CypherAssembly

namespace Desk

/-
  What answers add to and finishing leaves alone is, after a
  run, all that was added in it.
-/
theorem collected_run
    {A : Type}
    (part : Builder → List A)
    (new : Contribution → List A)
    (hTake : ∀ b x, part (b.take x) = part b ++ new x)
    (hFinish : ∀ b, part b.finish = part b)
    (d : Desk)
    (name : String)
    (commands : List Command) :
    part ((d.run commands).builder name) =
      part (d.builder name) ++
        (d.asked name commands).flatMap fun a =>
          new (a.answer name) := by
  induction commands generalizing d with
  | nil => simp [run, asked, history]
  | cons c rest ih =>
      rw [run_cons, ih, asked_cons]
      cases hRequest : c.requestTo? name with
      | some r =>
          have hAsked : c = .ask name r :=
            (c.requestTo?_eq_some_iff name r).mp hRequest
          subst hAsked
          have hBuilder :
              (d.after (.ask name r)).builder name =
                (d.builder name).take (d.ask name r).2 :=
            builder_ask_self d name r
          simp [hBuilder, hTake, Asked.answer]
      | none =>
          have hNot : ∀ r, c ≠ .ask name r := by
            rintro r rfl
            simp [Command.requestTo?] at hRequest
          have hSame :
              part ((d.after c).builder name) =
                part (d.builder name) := by
            rcases builder_after_of_not_asked d c name hNot
              with hFinished | hSame
            · rw [hFinished, hFinish]
            · rw [hSame]
          simp [hSame]

/- The faults of a query are those met with all requests. -/
theorem faults_run
    (name : String)
    (commands : List Command) :
    ((fresh.run commands).builder name).faults =
      (fresh.asked name commands).flatMap fun a =>
        (a.answer name).faults := by
  have hCollected :=
    collected_run (·.faults) (·.faults) (fun _ _ => rfl)
      Builder.faults_finish fresh name commands
  exact hCollected.trans (List.nil_append _)

/- The clauses of a query are those of all requests. -/
theorem clauses_run
    (name : String)
    (commands : List Command) :
    ((fresh.run commands).builder name).clauses =
      (fresh.asked name commands).flatMap fun a =>
        (a.answer name).clauses := by
  have hCollected :=
    collected_run (·.clauses) (·.clauses) (fun _ _ => rfl)
      Builder.clauses_finish fresh name commands
  exact hCollected.trans (List.nil_append _)

end Desk

end CypherAssembly

------------------------------------------------------------
-- Embeddings Among Requests
------------------------------------------------------------

namespace CypherAssembly

namespace Desk

/- What a builder embeds, it is asked to embed. -/
theorem embeds_iff_asked
    (commands : List Command)
    (outer inner : String) :
    Embeds commands outer inner ↔
      ∃ a ∈ fresh.asked outer commands,
        a.embedded? outer = some inner := by
  constructor
  · rintro ⟨⟨before, command⟩, hTurn, rfl, hCan⟩
    let a : Asked :=
      { before
        request := .embed inner }
    exact
      ⟨a, (mem_asked_iff fresh outer commands a).mpr hTurn,
        (a.embedded?_eq_some_iff outer inner).mpr
          ⟨rfl, hCan⟩⟩
  · rintro ⟨a, hMem, hEmbedded⟩
    rcases (a.embedded?_eq_some_iff outer inner).mp hEmbedded
      with ⟨hRequest, hCan⟩
    have hTurn :=
      (mem_asked_iff fresh outer commands a).mp hMem
    rw [hRequest] at hTurn
    exact ⟨_, hTurn, rfl, hCan⟩

/-
  A builder answers an embedding with what the embedded
  query is in the end.
-/
theorem answer_of_embedded
    (commands : List Command)
    (outer inner : String)
    (a : Asked)
    (hMem : a ∈ fresh.asked outer commands)
    (hEmbedded : a.embedded? outer = some inner) :
    let d := fresh.run commands
    a.answer outer =
      .embedding (d.finalText inner) (d.query inner).2 := by
  intro d
  rcases (a.embedded?_eq_some_iff outer inner).mp hEmbedded
    with ⟨hRequest, hCan⟩
  rcases (canEmbed_iff a.before outer inner).mp hCan with
    ⟨hOpen, hNe⟩
  have hTurn :=
    (mem_asked_iff fresh outer commands a).mp hMem
  rcases (mem_history_iff fresh commands _).mp hTurn with
    ⟨first, second, hSplit, hBefore⟩
  simp only at hSplit hBefore
  have hQuery : d.query inner = a.before.query inner := by
    rw [show d = fresh.run commands from rfl, hSplit,
      hRequest, run_append, run_cons, ← hBefore]
    exact
      query_run_after_embed a.before outer inner second hCan
  rw [Asked.answer, hRequest,
    ask_embed_of_open a.before outer inner hOpen hNe,
    finalText, finalText, hQuery]

/-
  A request that is not refused is a clause, which adds its
  contribution, or an embedding.  An embedding of the query
  in itself adds a fault.
-/
theorem answer_cases
    (commands : List Command)
    (name : String)
    (a : Asked)
    (hMem : a ∈ fresh.asked name commands)
    (hAccepted : (a.answer name).refusal = none) :
    let d := fresh.run commands
    (∃ c,
        a.request = .add (.ok c) ∧
          c.contribution.refusal = none ∧
          a.answer name = c.contribution) ∨
      (a.request = .embed name ∧
        a.answer name = .rejected .selfEmbedding) ∨
      ∃ inner,
        inner ≠ name ∧
          a.request = .embed inner ∧
          a.embedded? name = some inner ∧
          a.answer name =
            .embedding (d.finalText inner)
              (d.query inner).2 := by
  intro d
  rcases ask_cases a.before name a.request with
    ⟨refusal, hAnswer⟩ | ⟨c, hRequest, hAnswer⟩ |
      ⟨hRequest, hAnswer⟩ | ⟨inner, hNe, hRequest, hAnswer⟩
  · rw [Asked.answer, hAnswer] at hAccepted
    cases hAccepted
  · rw [Asked.answer, hAnswer] at hAccepted
    exact Or.inl ⟨c, hRequest, hAccepted, hAnswer⟩
  · exact Or.inr (Or.inl ⟨hRequest, hAnswer⟩)
  · have hCan : a.before.CanEmbed name inner := by
      rw [CanEmbed, ← hRequest, hAnswer]
      rfl
    have hEmbedded : a.embedded? name = some inner :=
      (a.embedded?_eq_some_iff name inner).mpr
        ⟨hRequest, hCan⟩
    exact
      Or.inr
        (Or.inr
          ⟨inner, hNe, hRequest, hEmbedded,
            answer_of_embedded commands name inner a hMem
              hEmbedded⟩)

end Desk

end CypherAssembly
