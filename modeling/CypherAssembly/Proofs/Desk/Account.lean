import CypherAssembly.Proofs.Desk.Finishing
import CypherAssembly.Proofs.Desk.Recording

/-
  The journal of a run, and who wrote what in it.

  Key definitions include:
    * `Signed`
    * `Event.ofRecordings`
    * `Asked.noted`
    * `Desk.wanted?`
    * `Desk.signed`
    * `Desk.account`
    * `Signed.own`
    * `Desk.ending`
    * `Desk.share`

  Key theorems include:
    * `Desk.journal_after`
    * `Desk.journal_run`
    * `Desk.own_account`

  The journal does not say whose events it has.  The account
  of a run does, and the journal is what is left of it when
  the names of the builders are left out.  In its part of
  the account, a builder first records its faults, counted
  without a gap, and then it is finished once.
-/

------------------------------------------------------------
-- Recordings
------------------------------------------------------------

namespace CypherAssembly

namespace Event

/- The events of faults that are recorded with clauses. -/
def ofRecordings
    (before : Nat)
    (noted : List (Keyword × Fault)) : List Event :=
  noted.mapIdx fun i r =>
    recorded (.text r.1.text) r.2 (before + i + 1)

/- Counting goes on where it stopped. -/
theorem ofRecordings_append
    (before : Nat)
    (first second : List (Keyword × Fault)) :
    ofRecordings before (first ++ second) =
      ofRecordings before first ++
        ofRecordings (before + first.length) second := by
  unfold ofRecordings
  rw [List.mapIdx_append]
  congr 2
  funext i r
  congr 1
  omega

theorem ofRecording_eq
    (k : Keyword)
    (before : Nat)
    (faults : List Fault) :
    ofRecording (.text k.text) before faults =
      ofRecordings before (faults.map fun f => (k, f)) := by
  apply List.ext_getElem?
  intro i
  simp [ofRecording, ofRecordings, Function.comp_def]

end Event

namespace Asked

/- The faults of an answer, each with its clause. -/
def noted
    (name : String)
    (a : Asked) : List (Keyword × Fault) :=
  match a.request.keyword? with
  | some k => (a.answer name).faults.map fun f => (k, f)
  | none => []

/- None of the faults is left out. -/
theorem map_snd_noted
    (name : String)
    (a : Asked) :
    (a.noted name).map (·.2) = (a.answer name).faults := by
  rcases a with ⟨before, (r | c) | inner⟩
  · rfl
  · simp [noted, Request.keyword?, Function.comp_def]
  · simp [noted, Request.keyword?, Function.comp_def]

theorem length_noted
    (name : String)
    (a : Asked) :
    (a.noted name).length =
      (a.answer name).faults.length := by
  rw [← map_snd_noted, List.length_map]

end Asked

end CypherAssembly

------------------------------------------------------------
-- Accounts
------------------------------------------------------------

namespace CypherAssembly

/- An event and the builder that it is about. -/
structure Signed where
  builder : String
  event : Event

/- The events of an account that are about a builder. -/
def Signed.own
    (name : String)
    (account : List Signed) : List Event :=
  (account.filter fun s => s.builder = name).map (·.event)

namespace Desk

/- The builder whose query a command wants, if any. -/
def wanted?
    (d : Desk) : Command → Option String
  | .ask name r => Asked.embedded? name ⟨d, r⟩
  | .execute name => some name
  | .build name => some name

/- What is written down when a builder is finished now. -/
def closing
    (d : Desk)
    (name : String) : List Signed :=
  if (d.builder name).isFinished then []
  else
    [{ builder := name
       event := (d.builder name).finish.finishedEvent }]

/- What is written down about the faults of an answer. -/
def noting
    (d : Desk) : Command → List Signed
  | .ask name r =>
      (Event.ofRecordings (d.builder name).faults.length
        (Asked.noted name ⟨d, r⟩)).map (Signed.mk name)
  | .execute _ => []
  | .build _ => []

/-
  What a command has written down.  A query that is wanted is
  finished first.
-/
def signed
    (d : Desk)
    (c : Command) : List Signed :=
  (d.wanted? c).toList.flatMap d.closing ++ d.noting c

/- What all commands of a run have written down. -/
def account
    (d : Desk)
    (commands : List Command) : List Signed :=
  (d.history commands).flatMap fun t =>
    t.before.signed t.command

theorem account_cons
    (d : Desk)
    (c : Command)
    (rest : List Command) :
    d.account (c :: rest) =
      d.signed c ++ (d.after c).account rest := by
  rw [account, history, List.flatMap_cons]
  rfl

theorem account_append
    (d : Desk)
    (first second : List Command) :
    d.account (first ++ second) =
      d.account first ++ (d.run first).account second := by
  induction first generalizing d with
  | nil => rfl
  | cons c first ih =>
      rw [List.cons_append, account_cons, account_cons, ih,
        run_cons, List.append_assoc]

/- A wanted query is one that the command finishes. -/
theorem wanted?_eq_some_iff
    (d : Desk)
    (c : Command)
    (name : String) :
    d.wanted? c = some name ↔ d.Finishes name c := by
  cases c with
  | ask subject r =>
      rw [wanted?, Asked.embedded?_eq_some_iff, Finishes]
      simp [Command.subject]
  | execute subject => simp [wanted?, Finishes]
  | build subject => simp [wanted?, Finishes]

end Desk

end CypherAssembly

------------------------------------------------------------
-- The Journal
------------------------------------------------------------

namespace CypherAssembly

namespace Desk

/- Finishing a builder is written down if it was open. -/
theorem journal_finish
    (d : Desk)
    (name : String) :
    (d.finish name).journal =
      d.journal ++ (d.closing name).map (·.event) := by
  by_cases hFinished : (d.builder name).isFinished = true
  · simp [finish, closing, hFinished]
  · simp [finish, closing, hFinished]

/- Refusals are not written down. -/
theorem noted_of_refused
    (d : Desk)
    (name : String)
    (r : Request)
    (refusal : Refusal)
    (hRefused : (d.ask name r).2 = .refused refusal) :
    Asked.noted name ⟨d, r⟩ = [] := by
  apply List.map_eq_nil_iff.mp
  rw [Asked.map_snd_noted, Asked.answer, hRefused]
  rfl

/- Faults of an answer are written down with its clause. -/
theorem journal_take
    (d : Desk)
    (name : String)
    (k : Keyword)
    (x : Contribution) :
    (d.take name k x).journal =
      d.journal ++
        Event.ofRecordings (d.builder name).faults.length
          (x.faults.map fun f => (k, f)) := by
  rw [← Event.ofRecording_eq]
  rfl

theorem journal_ask
    (d : Desk)
    (name : String)
    (r : Request) :
    (d.ask name r).1.journal =
      d.journal ++
        (d.signed (.ask name r)).map (·.event) := by
  have hNoting :
      (d.noting (.ask name r)).map (·.event) =
        Event.ofRecordings (d.builder name).faults.length
          (Asked.noted name ⟨d, r⟩) := by
    simp [noting, Function.comp_def]
  rw [signed, List.map_append, hNoting]
  rcases r with (refusal | c) | inner
  · rw [noted_of_refused d name _ refusal rfl]
    simp [ask, wanted?, Asked.embedded?,
      Event.ofRecordings]
  · exact journal_take d name c.keyword _
  · cases hFinished : (d.builder name).isFinished with
    | true =>
        have hRefused :=
          ask_embed_of_finished d name inner hFinished
        rw [noted_of_refused d name _ _
          (congrArg Prod.snd hRefused), hRefused]
        simp [wanted?, Asked.embedded?, canEmbed_iff,
          hFinished, Event.ofRecordings]
    | false =>
        by_cases hSelf : inner = name
        · subst hSelf
          have hAnswer := ask_embed_self d inner hFinished
          rw [hAnswer, journal_take]
          simp [wanted?, Asked.embedded?, canEmbed_iff,
            Asked.noted, Request.keyword?, Asked.answer,
            hAnswer]
        · have hAnswer :=
            ask_embed_of_open d name inner hFinished hSelf
          rw [hAnswer, journal_take, journal_finish,
            builder_finish_of_ne d inner name (Ne.symm hSelf)]
          simp [wanted?, Asked.embedded?, canEmbed_iff,
            Asked.noted, Request.keyword?, Asked.answer,
            hAnswer, hFinished, hSelf]

/- Every command writes down what it is said to. -/
theorem journal_after
    (d : Desk)
    (c : Command) :
    (d.after c).journal =
      d.journal ++ (d.signed c).map (·.event) := by
  cases c with
  | ask name r => exact journal_ask d name r
  | execute name =>
      rw [after_execute, journal_finish]
      simp [signed, wanted?, noting]
  | build name =>
      rw [after_build, journal_finish]
      simp [signed, wanted?, noting]

/- The journal of a run is its account without the names. -/
theorem journal_run
    (d : Desk)
    (commands : List Command) :
    (d.run commands).journal =
      d.journal ++ (d.account commands).map (·.event) := by
  induction commands generalizing d with
  | nil => simp [run, account, history]
  | cons c rest ih =>
      rw [run_cons, ih, journal_after, account_cons,
        List.map_append, List.append_assoc]

end Desk

end CypherAssembly

------------------------------------------------------------
-- A Builder's Part of the Account
------------------------------------------------------------

namespace CypherAssembly

namespace Signed

theorem own_append
    (name : String)
    (first second : List Signed) :
    own name (first ++ second) =
      own name first ++ own name second := by
  simp [own]

/- Events that are about a single builder. -/
theorem own_map
    (name other : String)
    (events : List Event) :
    own name (events.map (Signed.mk other)) =
      if other = name then events else [] := by
  by_cases hSame : other = name
  · simp [own, hSame, Function.comp_def, List.filter_map]
  · simp [own, hSame, Function.comp_def, List.filter_map]

end Signed

namespace Desk

theorem own_closing
    (d : Desk)
    (name other : String) :
    Signed.own name (d.closing other) =
      if other = name ∧ (d.builder name).isFinished = false
      then [(d.builder name).finish.finishedEvent]
      else [] := by
  by_cases hSame : other = name
  · subst hSame
    cases hFinished : (d.builder other).isFinished with
    | true => simp [closing, hFinished, Signed.own]
    | false => simp [closing, hFinished, Signed.own]
  · unfold closing
    split
    · simp [Signed.own, hSame]
    · simp [Signed.own, hSame]

/- Asked for something, a builder notes faults alone. -/
theorem own_signed_of_asked
    (d : Desk)
    (name : String)
    (r : Request) :
    Signed.own name (d.signed (.ask name r)) =
      Event.ofRecordings (d.builder name).faults.length
        (Asked.noted name ⟨d, r⟩) := by
  have hOther :
      Signed.own name
          ((d.wanted? (.ask name r)).toList.flatMap
            d.closing) = [] := by
    cases hWanted : d.wanted? (.ask name r) with
    | none => rfl
    | some inner =>
        rcases (Asked.embedded?_eq_some_iff _ _ _).mp hWanted
          with ⟨_, hCan⟩
        have hNe := ((canEmbed_iff d name inner).mp hCan).2
        simp [own_closing, hNe]
  rw [signed, Signed.own_append, hOther, noting,
    Signed.own_map, if_pos rfl, List.nil_append]

/- Any other command can only finish it. -/
theorem own_signed_of_not_asked
    (d : Desk)
    (c : Command)
    (name : String)
    (hNot : ∀ r, c ≠ .ask name r) :
    Signed.own name (d.signed c) =
      if d.wanted? c = some name ∧
          (d.builder name).isFinished = false
      then [(d.builder name).finish.finishedEvent]
      else [] := by
  have hNothing : Signed.own name (d.noting c) = [] := by
    cases c with
    | ask subject r =>
        have hNe : subject ≠ name := by
          rintro rfl
          exact hNot r rfl
        rw [noting, Signed.own_map, if_neg hNe]
    | execute subject => rfl
    | build subject => rfl
  rw [signed, Signed.own_append, hNothing, List.append_nil]
  cases d.wanted? c with
  | none => simp [Signed.own]
  | some other => simp [own_closing]

/- The event of finishing a builder, if a run finishes it. -/
def ending
    (d : Desk)
    (name : String)
    (commands : List Command) : List Event :=
  let b := (d.run commands).builder name
  if (d.builder name).isFinished then []
  else if b.isFinished then [b.finishedEvent]
  else []

/- A finished builder does not note anything. -/
theorem noted_of_finished
    (d : Desk)
    (name : String)
    (commands : List Command)
    (hFinished : (d.builder name).isFinished = true) :
    (d.asked name commands).flatMap (Asked.noted name) =
      [] := by
  rw [List.flatMap_eq_nil_iff]
  intro a hMem
  rcases (mem_history_iff d commands _).mp
      ((mem_asked_iff d name commands a).mp hMem) with
    ⟨first, _, _, hBefore⟩
  have hStill : (a.before.builder name).isFinished = true := by
    change a.before = d.run first at hBefore
    rw [hBefore, builder_run_of_finished d first name
      hFinished, hFinished]
  rcases ask_of_finished a.before name a.request hStill with
    ⟨refusal, hRefused⟩
  exact noted_of_refused a.before name _ refusal hRefused

/-
  An open builder that a command neither asks nor finishes
  stays as it is.
-/
theorem builder_after_of_open
    (d : Desk)
    (c : Command)
    (name : String)
    (hOpen : (d.builder name).isFinished = false)
    (hNot : ∀ r, c ≠ .ask name r)
    (hUnwanted : ¬ d.Finishes name c) :
    (d.after c).builder name = d.builder name := by
  have hStill :=
    isFinished_after_of_not_finishes d name c hUnwanted
  rcases builder_after_of_not_asked d c name hNot with
    hFinish | hSame
  · rw [hFinish, Builder.isFinished_finish, hOpen] at hStill
    cases hStill
  · exact hSame

theorem ending_of_finished
    (d : Desk)
    (name : String)
    (commands : List Command)
    (hFinished : (d.builder name).isFinished = true) :
    d.ending name commands = [] := by
  simp [ending, hFinished]

/- A builder stays open or finished if it stays as it is. -/
theorem ending_cons_of_same
    (d : Desk)
    (c : Command)
    (name : String)
    (rest : List Command)
    (hSame :
      ((d.after c).builder name).isFinished =
        (d.builder name).isFinished) :
    d.ending name (c :: rest) =
      (d.after c).ending name rest := by
  rw [ending, ending, hSame, run_cons]

/- A builder that is finished now ends as it is then. -/
theorem ending_cons_of_finishes
    (d : Desk)
    (c : Command)
    (name : String)
    (rest : List Command)
    (hOpen : (d.builder name).isFinished = false)
    (hFinishes : d.Finishes name c) :
    d.ending name (c :: rest) =
      [(d.builder name).finish.finishedEvent] := by
  have hFinished :=
    (isFinished_after_iff d name c).mpr (Or.inr hFinishes)
  have hRun :
      (d.run (c :: rest)).builder name =
        (d.builder name).finish := by
    rw [run_cons, builder_run_of_finished _ rest name
      hFinished, builder_after_of_finishes d name c hFinishes]
  simp [ending, hOpen, hRun]

/-
  What a builder should have in the account: the recordings
  of all faults that it is met with, and then its end.
-/
def share
    (d : Desk)
    (name : String)
    (commands : List Command) : List Event :=
  Event.ofRecordings (d.builder name).faults.length
      ((d.asked name commands).flatMap
        (Asked.noted name)) ++
    d.ending name commands

/- Asked for something, it goes on from more faults. -/
theorem share_cons_of_asked
    (d : Desk)
    (name : String)
    (r : Request)
    (rest : List Command) :
    d.share name (.ask name r :: rest) =
      Signed.own name (d.signed (.ask name r)) ++
        (d.after (.ask name r)).share name rest := by
  have hBuilder :
      (d.after (.ask name r)).builder name =
        (d.builder name).take (d.ask name r).2 :=
    builder_ask_self d name r
  have hLength :
      ((d.after (.ask name r)).builder name).faults.length =
        (d.builder name).faults.length +
          (Asked.noted name ⟨d, r⟩).length := by
    rw [hBuilder, Asked.length_noted]
    exact List.length_append
  have hEnding :
      d.ending name (.ask name r :: rest) =
        (d.after (.ask name r)).ending name rest := by
    apply ending_cons_of_same
    rw [hBuilder, Builder.isFinished_take]
  rw [share, share, own_signed_of_asked, asked_cons, hLength,
    hEnding]
  simp [Command.requestTo?, Event.ofRecordings_append]

/- Otherwise it ends now, or it goes on as it is. -/
theorem share_cons_of_not_asked
    (d : Desk)
    (c : Command)
    (name : String)
    (rest : List Command)
    (hNot : ∀ r, c ≠ .ask name r) :
    d.share name (c :: rest) =
      Signed.own name (d.signed c) ++
        (d.after c).share name rest := by
  have hAsked :
      d.asked name (c :: rest) =
        (d.after c).asked name rest := by
    have hNone : c.requestTo? name = none := by
      rw [Option.eq_none_iff_forall_ne_some]
      intro r hRequest
      have hCommand :=
        (c.requestTo?_eq_some_iff name r).mp hRequest
      exact hNot r hCommand
    rw [asked_cons, hNone]
    rfl
  have hWanted := d.wanted?_eq_some_iff c name
  rw [share, share, own_signed_of_not_asked d c name hNot,
    hAsked]
  cases hOpen : (d.builder name).isFinished with
  | true =>
      have hSame := builder_after_of_finished d c name hOpen
      rw [ending_cons_of_same d c name rest (by rw [hSame]),
        hSame]
      simp
  | false =>
      by_cases hFinishes : d.Finishes name c
      · have hFinished :=
          (isFinished_after_iff d name c).mpr
            (Or.inr hFinishes)
        rw [ending_of_finished _ name rest hFinished,
          ending_cons_of_finishes d c name rest hOpen
            hFinishes,
          noted_of_finished _ name rest hFinished]
        simp [hWanted.mpr hFinishes, Event.ofRecordings]
      · have hSame :=
          builder_after_of_open d c name hOpen hNot hFinishes
        rw [ending_cons_of_same d c name rest
          (by rw [hSame]), hSame]
        simp [mt hWanted.mp hFinishes]

/- Every builder has its share of the account. -/
theorem own_account
    (d : Desk)
    (name : String)
    (commands : List Command) :
    Signed.own name (d.account commands) =
      d.share name commands := by
  induction commands generalizing d with
  | nil =>
      cases hFinished : (d.builder name).isFinished with
      | true =>
          rw [share, ending_of_finished d name [] hFinished]
          rfl
      | false =>
          simp [share, ending, run, hFinished, account, asked,
            history, Signed.own, Event.ofRecordings]
  | cons c rest ih =>
      rw [account_cons, Signed.own_append, ih (d.after c)]
      by_cases hAsked : ∃ r, c = .ask name r
      · rcases hAsked with ⟨r, rfl⟩
        rw [share_cons_of_asked]
      · rw [share_cons_of_not_asked d c name rest]
        intro r hCommand
        exact hAsked ⟨r, hCommand⟩

end Desk

end CypherAssembly
