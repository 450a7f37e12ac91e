import CypherAssembly.Fault

/-
  The journal of an assembly.

  Key definitions include:
    * `Event`
    * `Event.severity`
    * `Event.ofRecording`

  Two things are written down while queries are assembled:
  that a fault was recorded, and that a query was finished.
-/

------------------------------------------------------------
-- Events
------------------------------------------------------------

namespace CypherAssembly

/-
  A recorded fault has a clause, whatever it is called, and
  its position among the faults of its query, counted from
  one.  A finished query has its clauses, the number of its
  faults and the length of its text.
-/
inductive Event where
  | recorded
      (clause : Value)
      (fault : Fault)
      (position : Nat)
  | finished
      (clauses : List Keyword)
      (faultCount : Nat)
      (length : Nat)
deriving Repr

namespace Event

/- What an event says. -/
def title : Event → String
  | recorded _ _ _ => "Recorded query assembly error"
  | finished _ _ _ => "Finalized Cypher query"

/- Events are of interest to those who look for mistakes. -/
def severity : Event → Severity
  | recorded _ _ _ => .debug
  | finished _ _ _ => .debug

/-
  The events of faults that are recorded together, after
  `before` others.
-/
def ofRecording
    (clause : Value)
    (before : Nat)
    (faults : List Fault) : List Event :=
  faults.mapIdx fun i f => recorded clause f (before + i + 1)

end Event

end CypherAssembly
