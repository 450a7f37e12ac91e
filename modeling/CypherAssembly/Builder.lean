import CypherAssembly.Clause
import CypherAssembly.Journal

/-
  Builders of queries.

  Key definitions include:
    * `Builder`
    * `Builder.answer`
    * `Builder.take`
    * `Builder.finish`
    * `Builder.fault?`

  A builder collects the contributions of clauses, one after
  the other.  Finishing it takes one newline off the end of
  the text.  A finished builder does not change any more,
  and its faults are handed out as one bundle.
-/

------------------------------------------------------------
-- Builders
------------------------------------------------------------

namespace CypherAssembly

/- The faults of a query as a single fault, if any. -/
def Fault.ofMany? : List Fault → Option Fault
  | [] => none
  | faults => some (.composite faults)

/- A query in the making. -/
structure Builder where
  text : String := ""
  clauses : List Keyword := []
  faults : List Fault := []
  isFinished : Bool := false
deriving Repr

namespace Builder

/- The builder of a query that nothing was added to. -/
def empty : Builder :=
  {}

/-
  What a request contributes here.  Nothing can be added to
  a finished query.
-/
def answer
    (b : Builder)
    (c : Clause) : Contribution :=
  if b.isFinished then
    .refused (.fault (.finalized c.keyword))
  else
    c.contribution

/- Add a contribution to what was collected before. -/
def take
    (b : Builder)
    (x : Contribution) : Builder :=
  { b with
    text := b.text ++ x.text
    clauses := b.clauses ++ x.clauses
    faults := b.faults ++ x.faults }

/- Finish a query, unless it is finished already. -/
def finish
    (b : Builder) : Builder :=
  if b.isFinished then b
  else
    { b with
      text := trimSuffix "\n" b.text
      isFinished := true }

/- All faults of the query in one. -/
def fault?
    (b : Builder) : Option Fault :=
  Fault.ofMany? b.faults

/- The event of finishing a query. -/
def finishedEvent
    (b : Builder) : Event :=
  .finished b.clauses b.faults.length b.text.length

/- Finishing twice is the same as finishing once. -/
theorem finish_finish
    (b : Builder) :
    b.finish.finish = b.finish := by
  by_cases hFinished : b.isFinished = true
  · simp [finish, hFinished]
  · simp [finish, hFinished]

end Builder

end CypherAssembly
