import CypherAssembly.Ledger

/-
  Commands to a ledger.

  Key definitions include:
    * `Task`
    * `Task.attempt`
    * `Ledger.Command`
    * `Ledger.build`
    * `Ledger.after`
    * `Ledger.run`

  Content is gathered in tasks, and all faults of a task go
  into the ledger, whether the task comes to its end or is
  broken off.  Between tasks, the faults so far can be built
  into a bundle.
-/

------------------------------------------------------------
-- Tasks
------------------------------------------------------------

namespace CypherAssembly

/-
  Work that faults can come of.  The clause and the position
  are whatever somebody calls them.
-/
inductive Task where
  | record (clause : Value) (fault : Fault)
  | renderOne (clause position : Value) (content : Content)
  | compose (clause : Value) (given : List Content)
  | concat (clause : Value) (given : List Content)
  | resolve (clause position : Value) (pattern : Content)
  | resolveAll (clause : Value) (given : List Content)

namespace Task

/- The clause that a task is done for. -/
def clause : Task → Value
  | record clause _ => clause
  | renderOne clause _ _ => clause
  | compose clause _ => clause
  | concat clause _ => clause
  | resolve clause _ _ => clause
  | resolveAll clause _ => clause

/- What a task comes to, and the faults it meets. -/
def attempt : Task → Attempt Value
  | record _ fault =>
      { outcome := .ok .null
        faults := [fault] }
  | renderOne clause position content =>
      (Attempt.renderOne (Spot.checked clause position)
        content).map content.answer
  | compose clause given =>
      (Attempt.compose clause given).map fun texts =>
        .list (given.zipWith Content.answer texts)
  | concat clause given =>
      (Attempt.concat clause given).map .text
  | resolve clause position pattern =>
      (CypherAssembly.resolve (Spot.checked clause position)
        pattern).map
          (pattern.preferred?.getD .nothing).answer
  | resolveAll clause given =>
      ((CypherAssembly.resolveAll (Spot.clauseOf clause)
        given).joining
          (given.filterMap Content.preferred?)).map .text

end Task

end CypherAssembly

------------------------------------------------------------
-- Carrying Commands Out
------------------------------------------------------------

namespace CypherAssembly

namespace Ledger

/- What somebody with a ledger at hand can do. -/
inductive Command where
  | work (task : Task)
  | build (name : Value)

/- A ledger that nothing was written into. -/
def fresh : Ledger :=
  {}

/- Do a task and write its faults down. -/
def work
    (l : Ledger)
    (t : Task) : Ledger × Attempt Value :=
  let a := t.attempt
  (l.record t.clause a.faults, a)

/-
  Build the bundle of all faults so far and keep it.  What
  cannot be a name is refused.
-/
def build
    (l : Ledger)
    (name : Value) :
    Ledger × Except Refusal (Option Fault) :=
  match l.keep name with
  | .ok l => (l, .ok l.bundle)
  | .error r => (l, .error r)

/- The ledger after a command. -/
def after
    (l : Ledger) : Command → Ledger
  | .work task => (l.work task).1
  | .build name => (l.build name).1

/- The ledger after several commands. -/
def run
    (l : Ledger)
    (commands : List Command) : Ledger :=
  commands.foldl after l

/- A run starts with its first command. -/
theorem run_cons
    (l : Ledger)
    (c : Command)
    (rest : List Command) :
    l.run (c :: rest) = (l.after c).run rest := rfl

end Ledger

end CypherAssembly
