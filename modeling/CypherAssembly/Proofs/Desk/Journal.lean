import Mathlib.Algebra.GroupWithZero.Nat
import CypherAssembly.Proofs.Desk.Account

/-
  The journal of a run.

  Key definitions include:
    * `Desk.names`
    * `Desk.faultCount`
    * `Event.isRecording`

  Key theorems include:
    * `Desk.run_induction`
    * `Desk.nodup_names_run`
    * `Desk.countP_journal_run`
    * `Desk.signed_embedding`
    * `Desk.journal_accounts_for_run`

  There are as many recordings in the journal as there are
  faults on the desk.  Both grow together whenever a builder
  takes something in, and finishing adds to neither of them.
-/

------------------------------------------------------------
-- Records
------------------------------------------------------------

namespace CypherAssembly

namespace Record

variable {A : Type}

/- A name that was put in is there, and no other is new. -/
theorem mem_names_put_iff
    (name other : String)
    (value : A)
    (r : Record A) :
    other ∈ (r.put name value).map (·.1) ↔
      other = name ∨ other ∈ r.map (·.1) := by
  induction r with
  | nil => simp [put]
  | cons entry rest ih =>
      obtain ⟨first, old⟩ := entry
      by_cases hFirst : first = name
      · simp [put, hFirst]
      · simp only [put, hFirst, if_false, List.map_cons,
          List.mem_cons, ih]
        exact or_left_comm

/- No name is there twice. -/
theorem nodup_names_put
    (name : String)
    (value : A)
    (r : Record A)
    (hNodup : (r.map (·.1)).Nodup) :
    ((r.put name value).map (·.1)).Nodup := by
  induction r with
  | nil => simp [put]
  | cons entry rest ih =>
      obtain ⟨first, old⟩ := entry
      rw [List.map_cons, List.nodup_cons] at hNodup
      by_cases hFirst : first = name
      · subst hFirst
        simpa [put] using hNodup
      · simp only [put, hFirst, if_false, List.map_cons,
          List.nodup_cons]
        refine ⟨?_, ih hNodup.2⟩
        rw [mem_names_put_iff, not_or]
        exact ⟨hFirst, hNodup.1⟩

/- Names that are not there have no values. -/
theorem get?_of_not_mem
    (name : String)
    (r : Record A)
    (hNot : name ∉ r.map (·.1)) :
    r.get? name = none := by
  induction r with
  | nil => rfl
  | cons entry rest ih =>
      obtain ⟨first, old⟩ := entry
      simp only [List.map_cons, List.mem_cons, not_or]
        at hNot
      rw [get?, if_neg (Ne.symm hNot.1), ih hNot.2]

/- If no name is there twice, each value can be found. -/
theorem get?_of_mem
    (entry : String × A)
    (r : Record A)
    (hNodup : (r.map (·.1)).Nodup)
    (hMem : entry ∈ r) :
    r.get? entry.1 = some entry.2 := by
  induction r with
  | nil => cases hMem
  | cons other rest ih =>
      obtain ⟨first, old⟩ := other
      rw [List.map_cons, List.nodup_cons] at hNodup
      rcases List.mem_cons.mp hMem with rfl | hRest
      · rw [get?, if_pos rfl]
      · have hNe : first ≠ entry.1 := by
          intro hSame
          apply hNodup.1
          exact List.mem_map.mpr ⟨entry, hRest, hSame.symm⟩
        rw [get?, if_neg hNe, ih hNodup.2 hRest]

/- What is put in takes the place of what was there. -/
theorem sum_put
    (size : A → Nat)
    (name : String)
    (value : A)
    (r : Record A) :
    ((r.put name value).map fun e => size e.2).sum +
        ((r.get? name).map size).getD 0 =
      (r.map fun e => size e.2).sum + size value := by
  induction r with
  | nil => simp [put, get?]
  | cons entry rest ih =>
      obtain ⟨first, old⟩ := entry
      by_cases hFirst : first = name
      · simp [put, get?, hFirst]
        omega
      · simp only [put, get?, hFirst, if_false,
          List.map_cons, List.sum_cons]
        omega

end Record

end CypherAssembly

------------------------------------------------------------
-- Builders on a Desk
------------------------------------------------------------

namespace CypherAssembly

namespace Desk

/- What finishing an open builder does to the desk. -/
theorem finish_of_open
    (d : Desk)
    (name : String)
    (hOpen : (d.builder name).isFinished = false) :
    d.finish name =
      { builders :=
          d.builders.put name (d.builder name).finish
        journal :=
          d.journal ++
            [(d.builder name).finish.finishedEvent] } := by
  simp [finish, hOpen]

/-
  What holds at first and goes on to hold when builders take
  something in or are finished, holds after every run.
-/
theorem run_induction
    {P : Desk → Prop}
    (hTake : ∀ d name k x, P d → P (d.take name k x))
    (hFinish :
      ∀ d name,
        (d.builder name).isFinished = false →
          P d → P (d.finish name))
    (d : Desk)
    (hStart : P d)
    (commands : List Command) :
    P (d.run commands) := by
  have hFinishAny : ∀ d name, P d → P (d.finish name) := by
    intro d name hBefore
    cases hOpen : (d.builder name).isFinished with
    | true => simpa [finish, hOpen] using hBefore
    | false => exact hFinish d name hOpen hBefore
  have hAsk : ∀ d name r, P d → P (d.ask name r).1 := by
    intro d name r hBefore
    rcases r with (refusal | c) | inner
    · exact hBefore
    · exact hTake d name _ _ hBefore
    · change P (d.embed name inner).1
      unfold embed
      split
      · exact hBefore
      · split
        · exact hTake d name _ _ hBefore
        · apply hTake
          exact hFinishAny d inner hBefore
  induction commands generalizing d with
  | nil => exact hStart
  | cons c rest ih =>
      rw [run_cons]
      apply ih
      cases c with
      | ask name r => exact hAsk d name r hStart
      | execute name => exact hFinishAny d name hStart
      | build name =>
          rw [after_build]
          exact hFinishAny d name hStart

/- The names of all builders on a desk. -/
def names
    (d : Desk) : List String :=
  d.builders.map (·.1)

/- Every builder is on the desk once. -/
theorem nodup_names_run
    (commands : List Command) :
    (fresh.run commands).names.Nodup := by
  apply run_induction (P := fun d => d.names.Nodup)
  · intro d name k x hNodup
    exact Record.nodup_names_put name _ _ hNodup
  · intro d name hOpen hNodup
    rw [finish_of_open d name hOpen]
    exact Record.nodup_names_put name _ _ hNodup
  · exact List.nodup_nil

/- Who is not on the desk has not begun. -/
theorem builder_of_not_mem_names
    (d : Desk)
    (name : String)
    (hNot : name ∉ d.names) :
    d.builder name = .empty := by
  rw [builder, Record.get?_of_not_mem name _ hNot]
  rfl

end Desk

end CypherAssembly

------------------------------------------------------------
-- Counting Recordings
------------------------------------------------------------

namespace CypherAssembly

/- Holds for events that say that a fault was recorded. -/
def Event.isRecording
    (e : Event) : Bool :=
  e.title == "Recorded query assembly error"

theorem Event.countP_ofRecording
    (clause : Value)
    (before : Nat)
    (faults : List Fault) :
    (ofRecording clause before faults).countP isRecording =
      faults.length := by
  have hAll :
      ∀ e ∈ ofRecording clause before faults,
        e.isRecording = true := by
    intro e hMem
    rcases List.mem_mapIdx.mp hMem with ⟨i, _, rfl⟩
    rfl
  rw [List.countP_eq_length.mpr hAll, ofRecording,
    List.length_mapIdx]

namespace Desk

/- The number of faults of all builders on a desk. -/
def faultCount
    (d : Desk) : Nat :=
  (d.names.map fun name =>
    (d.builder name).faults.length).sum

/- It can be counted without looking builders up. -/
theorem faultCount_eq
    (d : Desk)
    (hNodup : d.names.Nodup) :
    d.faultCount =
      (d.builders.map fun e => e.2.faults.length).sum := by
  rw [faultCount, names, List.map_map]
  congr 1
  apply List.map_congr_left
  intro entry hMem
  simp [builder, Record.get?_of_mem entry _ hNodup hMem]

/- A builder with more faults makes that many more. -/
theorem sum_put_builder
    (d : Desk)
    (name : String)
    (b : Builder)
    (more : Nat)
    (hMore :
      b.faults.length =
        (d.builder name).faults.length + more) :
    ((d.builders.put name b).map fun e =>
        e.2.faults.length).sum =
      (d.builders.map fun e => e.2.faults.length).sum +
        more := by
  have hOld :
      ((d.builders.get? name).map fun b =>
          b.faults.length).getD 0 =
        (d.builder name).faults.length := by
    unfold builder
    cases d.builders.get? name <;> rfl
  have hPut :=
    Record.sum_put (fun b : Builder => b.faults.length)
      name b d.builders
  rw [hOld] at hPut
  omega

/- There are as many recordings as faults of builders. -/
theorem countP_journal_run
    (commands : List Command) :
    (fresh.run commands).journal.countP Event.isRecording =
      (fresh.run commands).faultCount := by
  rw [faultCount_eq _ (nodup_names_run commands)]
  apply run_induction
    (P := fun d =>
      d.journal.countP Event.isRecording =
        (d.builders.map fun e => e.2.faults.length).sum)
  · intro d name k x hCount
    have hSum :=
      d.sum_put_builder name ((d.builder name).take x)
        x.faults.length List.length_append
    simp only [take, List.countP_append,
      Event.countP_ofRecording, hCount, hSum]
  · intro d name hOpen hCount
    have hSum :=
      d.sum_put_builder name (d.builder name).finish 0
        (by simp)
    simp only [finish_of_open d name hOpen,
      List.countP_append, hCount, hSum]
    rfl
  · rfl

end Desk

end CypherAssembly

------------------------------------------------------------
-- The Journal of a Run
------------------------------------------------------------

namespace CypherAssembly

namespace Desk

/- After a run, all faults of a builder are accounted for. -/
theorem map_snd_noted_run
    (name : String)
    (commands : List Command) :
    ((fresh.asked name commands).flatMap
        (Asked.noted name)).map (·.2) =
      ((fresh.run commands).builder name).faults := by
  rw [faults_run, List.map_flatMap]
  simp only [Asked.map_snd_noted]

/- A builder that was finished ends as it is ever after. -/
theorem ending_fresh
    (name : String)
    (commands later : List Command) :
    let d := fresh.run (commands ++ later)
    let b := d.builder name
    fresh.ending name commands =
      if ((fresh.run commands).builder name).isFinished then
        [.finished b.clauses b.faults.length
          (d.finalText name).length]
      else [] := by
  intro d b
  have hFresh : (fresh.builder name).isFinished = false := rfl
  simp only [ending, hFresh, Bool.false_eq_true, if_false]
  cases hFinished :
      ((fresh.run commands).builder name).isFinished with
  | true =>
      have hSame : b = (fresh.run commands).builder name := by
        simp only [b, d, run_append]
        exact builder_run_of_finished _ later name hFinished
      have hText : d.finalText name = b.text := by
        rw [finalText_eq]
        apply congrArg Builder.text
        apply Builder.finish_of_finished
        change b.isFinished = true
        rw [hSame, hFinished]
      rw [hText, hSame]
      rfl
  | false => rfl

/-
  An open query that is embedded is finished first, and then
  its bundled faults are recorded by the one around it.
-/
theorem signed_embedding
    (d : Desk)
    (outer inner : String)
    (hCan : d.CanEmbed outer inner)
    (hOpen : (d.builder inner).isFinished = false) :
    d.signed (.ask outer (.embed inner)) =
      { builder := inner
        event := (d.builder inner).finish.finishedEvent } ::
        (Event.ofRecordings (d.builder outer).faults.length
          ((d.query inner).2.toList.map fun f =>
            (.call, f))).map (Signed.mk outer) := by
  rcases (canEmbed_iff d outer inner).mp hCan with
    ⟨hOuter, hNe⟩
  have hAnswer := ask_embed_of_open d outer inner hOuter hNe
  have hFaults :
      Asked.noted outer ⟨d, .embed inner⟩ =
        (d.query inner).2.toList.map fun f => (.call, f) := by
    simp only [Asked.noted, Request.keyword?, Asked.answer,
      hAnswer]
    rfl
  simp [signed, noting, wanted?, Asked.embedded?, hCan,
    closing, hOpen, hFaults]

/-
  The journal of a run is its account without the names.  It
  has as many recordings as there are faults on the desk.  A
  builder's part of it has one recording for each fault, in
  order and counted from one, and after them, if the builder
  is finished, one event with what its query is then and at
  any later time.  When an open query is embedded, it is
  finished before the query around it records its faults.
-/
theorem journal_accounts_for_run
    (commands : List Command) :
    let d := fresh.run commands
    let account := fresh.account commands
    d.journal = account.map (·.event) ∧
      (d.names.Nodup ∧
        (∀ name, name ∉ d.names → d.builder name = .empty) ∧
        d.journal.countP Event.isRecording =
          d.faultCount) ∧
      (∀ name,
        let noted :=
          (fresh.asked name commands).flatMap
            (Asked.noted name)
        noted.map (·.2) = (d.builder name).faults ∧
          ∀ later,
            let d' := fresh.run (commands ++ later)
            let b := d'.builder name
            Signed.own name account =
              Event.ofRecordings 0 noted ++
                if (d.builder name).isFinished then
                  [.finished b.clauses b.faults.length
                    (d'.finalText name).length]
                else []) ∧
      ∀ t ∈ fresh.history commands,
        ∀ outer inner,
          t.command = .ask outer (.embed inner) →
            t.before.CanEmbed outer inner →
            (t.before.builder inner).isFinished = false →
              ∃ earlier later,
                account =
                  earlier ++
                    { builder := inner
                      event :=
                        (t.before.builder
                          inner).finish.finishedEvent } ::
                    (Event.ofRecordings
                      (t.before.builder outer).faults.length
                      ((t.before.query inner).2.toList.map
                        fun f => (.call, f))).map
                          (Signed.mk outer) ++
                    later := by
  intro d account
  refine ⟨?_, ⟨?_, ?_, ?_⟩, ?_, ?_⟩
  · exact journal_run fresh commands
  · exact nodup_names_run commands
  · intro name hNot
    exact d.builder_of_not_mem_names name hNot
  · exact countP_journal_run commands
  · intro name noted
    refine ⟨map_snd_noted_run name commands, ?_⟩
    intro later d' b
    rw [← ending_fresh name commands later]
    -- a fresh builder counts its faults from the first one
    exact own_account fresh name commands
  · intro t hMem outer inner hCommand hCan hOpen
    rcases (mem_history_iff fresh commands t).mp hMem with
      ⟨first, second, hSplit, hBefore⟩
    refine
      ⟨fresh.account first,
        (t.before.after t.command).account second, ?_⟩
    simp only [account]
    rw [hSplit, account_append, ← hBefore, account_cons,
      hCommand, signed_embedding _ _ _ hCan hOpen]
    simp

/- Each query is finished once, however often it is wanted. -/
example :
    (fresh.run
      [.ask "low" (.add (.ok (.conditions []))),
        .ask "high" (.add (.ok (.delete true .nothing))),
        .ask "high" (.embed "low"),
        .execute "low",
        .execute "high",
        .build "high"]).journal =
      [.recorded (.text "WHERE") (.emptyClause .filtering) 1,
        .recorded (.text "DETACH DELETE")
          (.emptyClause .detachDelete) 1,
        .finished [] 1 0,
        .recorded (.text "CALL")
          (.composite [.emptyClause .filtering]) 2,
        .finished [.call] 2 11] := by
  rfl

end Desk

end CypherAssembly
