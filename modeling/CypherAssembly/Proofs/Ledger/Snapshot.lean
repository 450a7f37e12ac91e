import CypherAssembly.Ledger.Command

/-
  Bundles as snapshots of a ledger.

  Key definitions include:
    * `Ledger.Command.faults`
    * `Ledger.recorded`

  Key theorems include:
    * `Ledger.faults_run`
    * `Ledger.kept?_run`
    * `Ledger.bundles_are_snapshots`

  What a ledger holds is what all commands recorded, in this
  order.  A bundle that was built holds what was there when
  it was built.  It does not matter what is recorded later,
  be it the bundle itself.
-/

------------------------------------------------------------
-- Recording
------------------------------------------------------------

namespace CypherAssembly

namespace Ledger

/- The faults that a command records.  Building records none. -/
def Command.faults : Command → List Fault
  | .work task => task.attempt.faults
  | .build _ => []

/- All faults that were recorded, the first one in front. -/
def recorded
    (commands : List Command) : List Fault :=
  commands.flatMap Command.faults

/- Building changes nothing but what is kept. -/
theorem build_cases
    (l : Ledger)
    (name : Value) :
    (name.isName = true ∧
        l.build name =
          ({ l with kept := l.kept.put name l.bundle },
            .ok l.bundle)) ∨
      (name.isName = false ∧
        l.build name = (l, .error (.noName name.kind))) := by
  unfold build keep Value.asName
  cases hName : name.isName with
  | true => exact Or.inl ⟨rfl, rfl⟩
  | false => exact Or.inr ⟨rfl, rfl⟩

/- What is kept is the only difference that building makes. -/
theorem build_unchanged
    (l : Ledger)
    (name : Value) :
    (l.build name).1.faults = l.faults ∧
      (l.build name).1.journal = l.journal := by
  rcases l.build_cases name with ⟨_, hBuild⟩ | ⟨_, hBuild⟩
  · rw [hBuild]
    exact ⟨rfl, rfl⟩
  · rw [hBuild]
    exact ⟨rfl, rfl⟩

/- Each command adds its faults behind the others. -/
theorem faults_after
    (l : Ledger)
    (c : Command) :
    (l.after c).faults = l.faults ++ c.faults := by
  cases c with
  | work task => rfl
  | build name =>
      rw [Command.faults, List.append_nil]
      exact (l.build_unchanged name).1

/- So does a run, which only ever adds to what is there. -/
theorem faults_run
    (l : Ledger)
    (commands : List Command) :
    (l.run commands).faults =
      l.faults ++ recorded commands := by
  induction commands generalizing l with
  | nil => exact (List.append_nil _).symm
  | cons c rest ih =>
      rw [run_cons, ih, faults_after, recorded, recorded,
        List.flatMap_cons, List.append_assoc]

end Ledger

end CypherAssembly

------------------------------------------------------------
-- Keeping
------------------------------------------------------------

namespace CypherAssembly

/- A text can be a name, and so can nothing at all. -/
theorem Value.asName_ofText?
    (name : Option String) :
    (Value.ofText? name).asName = .ok (.ofText? name) := by
  cases name <;> rfl

namespace Ledger

/- What is kept under a text or nothing is looked up. -/
theorem kept?_ofText?
    (l : Ledger)
    (name : Option String) :
    l.kept? (.ofText? name) =
      match l.kept.get? (.ofText? name) with
      | some bundle => .ok bundle
      | none => .error (.noSuchName (.ofText? name)) := by
  unfold kept?
  rw [Value.asName_ofText?]
  change (match l.kept.get? (.ofText? name) with
    | some bundle => Except.ok bundle
    | none => _) = _
  cases l.kept.get? (.ofText? name) <;> rfl

/- A bundle is kept under the name that it was built for. -/
theorem kept?_build
    (l : Ledger)
    (name : Option String) :
    (l.build (.ofText? name)).2 = .ok l.bundle ∧
      (l.build (.ofText? name)).1.kept? (.ofText? name) =
        .ok l.bundle := by
  have hName : (Value.ofText? name).isName = true := by
    cases name <;> rfl
  rcases l.build_cases (.ofText? name) with
    ⟨_, hBuild⟩ | ⟨hNot, _⟩
  · rw [hBuild, kept?_ofText?]
    refine ⟨rfl, ?_⟩
    rw [Register.get?_put_self]
  · rw [hName] at hNot
    cases hNot

/- It stays there until another one is built for the name. -/
theorem kept?_after
    (l : Ledger)
    (c : Command)
    (name : Option String)
    (hOther : c ≠ .build (.ofText? name)) :
    (l.after c).kept? (.ofText? name) =
      l.kept? (.ofText? name) := by
  cases c with
  | work task => rfl
  | build other =>
      have hNe : other ≠ .ofText? name :=
        fun hSame => hOther (congrArg Command.build hSame)
      change (l.build other).1.kept? _ = _
      rcases l.build_cases other with
        ⟨_, hBuild⟩ | ⟨_, hBuild⟩
      · rw [hBuild, kept?_ofText?, kept?_ofText?,
          Register.get?_put_of_ne name other _ _ hNe]
      · rw [hBuild]

theorem kept?_run
    (l : Ledger)
    (commands : List Command)
    (name : Option String)
    (hOther : .build (.ofText? name) ∉ commands) :
    (l.run commands).kept? (.ofText? name) =
      l.kept? (.ofText? name) := by
  induction commands generalizing l with
  | nil => rfl
  | cons c rest ih =>
      rw [List.mem_cons, not_or] at hOther
      rcases hOther with ⟨hNe, hRest⟩
      rw [run_cons, ih (l.after c) hRest,
        kept?_after l c name (Ne.symm hNe)]

end Ledger

end CypherAssembly

------------------------------------------------------------
-- Snapshots
------------------------------------------------------------

namespace CypherAssembly

/- A fault that is made of many bundles all of them. -/
theorem Fault.eq_composite_of_ofMany?
    {faults : List Fault}
    {f : Fault}
    (hSome : Fault.ofMany? faults = some f) :
    f = .composite faults := by
  cases faults with
  | nil => cases hSome
  | cons first rest => exact (Option.some.inj hSome).symm

/- The message of a bundle has those of its faults in it. -/
theorem Fault.message_eq_bundle
    (faults : List Fault) :
    (Fault.composite faults).message =
      bundle (faults.map Fault.message) := by
  rw [← Fault.messages_eq_map]
  rfl

theorem Fault.message_composite
    (faults : List Fault) :
    (Fault.composite faults).message =
      "errors found: " ++
        ";".intercalate (faults.map Fault.message) ++
        " -- total errors (" ++
        Decimal.ofNat faults.length ++ ")" := by
  calc
    (Fault.composite faults).message
      = bundle (faults.map Fault.message) :=
        Fault.message_eq_bundle faults
    _ = "errors found: " ++
          ";".intercalate (faults.map Fault.message) ++
          " -- total errors (" ++
          Decimal.ofNat (faults.map Fault.message).length ++
          ")" := rfl
    _ = _ := by rw [List.length_map]

namespace Ledger

/- Bundles that are kept are counted by their faults. -/
theorem keptCount_of_kept?
    {l : Ledger}
    {name : Value}
    {faults : List Fault}
    (hKept : l.kept? name = .ok (Fault.ofMany? faults)) :
    l.keptCount name =
      if faults = [] then .error .noBundle
      else .ok faults.length := by
  unfold keptCount
  rw [hKept]
  cases faults with
  | nil => rfl
  | cons first rest => rfl

/-
  Whatever was done with a ledger, it holds what was recorded
  and nothing else.  Building gives no bundle if nothing was
  recorded, else one with exactly these faults, and changes
  neither them nor the journal nor what is kept under other
  names.  Whatever is done afterwards, the faults stay in
  front of those that are recorded later, and the bundle
  stays what it is.
-/
theorem bundles_are_snapshots
    (commands : List Command)
    (name : Option String) :
    let l := fresh.run commands
    let faults := recorded commands
    let built := l.build (.ofText? name)
    l.faults = faults ∧
      built.2 = .ok l.bundle ∧
      (l.bundle = none ↔ faults = []) ∧
      (∀ f,
        l.bundle = some f →
          f = .composite faults ∧
            f.message =
              "errors found: " ++
                ";".intercalate (faults.map Fault.message) ++
                " -- total errors (" ++
                Decimal.ofNat faults.length ++ ")") ∧
      (∀ given,
        (l.build given).1.faults = l.faults ∧
          (l.build given).1.journal = l.journal) ∧
      (∀ other,
        other ≠ name →
          built.1.kept? (.ofText? other) =
            l.kept? (.ofText? other)) ∧
      ∀ later,
        let next := built.1.run later
        next.faults = faults ++ recorded later ∧
          (.build (.ofText? name) ∉ later →
            next.kept? (.ofText? name) = .ok l.bundle ∧
              next.keptCount (.ofText? name) =
                if faults = [] then .error .noBundle
                else .ok faults.length) := by
  intro l faults built
  have hFaults : l.faults = faults := faults_run fresh commands
  rcases l.kept?_build name with ⟨hBuilt, hKept⟩
  refine ⟨hFaults, hBuilt, ?_, ?_, ?_, ?_, ?_⟩
  · rw [l.bundle_eq_none_iff, hFaults]
  · intro f hBundle
    rw [bundle, hFaults] at hBundle
    rw [Fault.eq_composite_of_ofMany? hBundle]
    exact ⟨rfl, Fault.message_composite faults⟩
  · exact l.build_unchanged
  · intro other hNe
    apply kept?_after l (.build (.ofText? name)) other
    intro hSame
    apply hNe
    cases name <;> cases other <;> cases hSame <;> rfl
  · intro later next
    refine ⟨?_, ?_⟩
    · rw [← hFaults, ← (l.build_unchanged _).1]
      exact faults_run built.1 later
    · intro hOther
      have hLater :
          next.kept? (.ofText? name) = .ok l.bundle :=
        (kept?_run built.1 later name hOther).trans hKept
      refine ⟨hLater, keptCount_of_kept? ?_⟩
      rw [hLater, bundle, hFaults]

/-
  A bundle of one fault is recorded itself, and the two are
  built into another bundle.  It still has two faults after
  content failed and all three were built into one more.
-/
theorem snapshot_with_bundle_inside :
    let e : Fault := .outside (.failure "e1")
    let commands : List Command :=
      [.work (.record .null e), .build (.ofText? none),
        .work (.record (.text "MATCH") (.composite [e]))]
    let later : List Command :=
      [.work (.renderOne (.text "WHERE") (.int 2)
        (.failing e)), .build (.ofText? none)]
    let name := some "second"
    let l := fresh.run commands
    let next := (l.build (.ofText? name)).1.run later
    l.bundle = some (.composite [e, .composite [e]]) ∧
      (Fault.composite [e, .composite [e]]).message =
        "errors found: e1;" ++
          "errors found: e1 -- total errors (1)" ++
          " -- total errors (2)" ∧
      .build (.ofText? name) ∉ later ∧
      next.kept? (.ofText? name) = .ok l.bundle ∧
      next.keptCount (.ofText? name) = .ok 2 ∧
      next.faults.length = 3 := by
  intro e commands later name l next
  have hBundle :
      l.bundle = some (.composite [e, .composite [e]]) := rfl
  have hOther : .build (.ofText? name) ∉ later := by
    simp [later, name, Value.ofText?]
  rcases bundles_are_snapshots commands name with
    ⟨_, _, _, hMessage, _, _, hLater⟩
  rcases hLater later with ⟨hFaults, hKept⟩
  rcases hKept hOther with ⟨hSame, hCount⟩
  refine ⟨hBundle, ?_, hOther, hSame, hCount, ?_⟩
  · exact (hMessage _ hBundle).2.trans (by decide +kernel)
  · exact congrArg List.length hFaults

end Ledger

end CypherAssembly
