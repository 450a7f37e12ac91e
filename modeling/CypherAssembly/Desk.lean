import CypherAssembly.Builder

/-
  A desk with several builders on it.

  Key definitions include:
    * `Desk`
    * `Desk.builder`
    * `Desk.add`
    * `Desk.finish`
    * `Desk.embed`

  Key theorems include:
    * `Desk.builder_take_self`
    * `Desk.builder_take_of_ne`
    * `Desk.builder_finish_self`
    * `Desk.builder_finish_of_ne`

  Builders are known by their names.  One builder can embed
  the query of another one, which is finished first if need
  be.  The desk keeps a single journal for all builders.
-/

------------------------------------------------------------
-- Desks
------------------------------------------------------------

namespace CypherAssembly

/- Named builders and what was written down about them. -/
structure Desk where
  builders : Record Builder := []
  journal : List Event := []

namespace Desk

/- The builder of a name; at first it is empty. -/
def builder
    (d : Desk)
    (name : String) : Builder :=
  (d.builders.get? name).getD .empty

/-
  Add a contribution to a builder and write its faults down
  as faults of the given clause.
-/
def take
    (d : Desk)
    (name : String)
    (k : Keyword)
    (x : Contribution) : Desk :=
  let b := d.builder name
  { builders := d.builders.put name (b.take x)
    journal := d.journal ++
      Event.ofRecording (.text k.text) b.faults.length
        x.faults }

/- Add a clause to the query of a builder. -/
def add
    (d : Desk)
    (name : String)
    (c : Clause) : Desk × Contribution :=
  let x := (d.builder name).answer c
  (d.take name c.keyword x, x)

/- Finish the query of a builder. -/
def finish
    (d : Desk)
    (name : String) : Desk :=
  let b := d.builder name
  if b.isFinished then d
  else
    { builders := d.builders.put name b.finish
      journal := d.journal ++ [b.finish.finishedEvent] }

/-
  Embed the query of `inner` in the query of `outer`.  A
  finished query takes nothing in, and no query can contain
  itself; in both cases `inner` is left as it was.
-/
def embed
    (d : Desk)
    (outer inner : String) : Desk × Contribution :=
  if (d.builder outer).isFinished then
    (d, .refused (.fault (.finalized .call)))
  else if inner = outer then
    let x := Contribution.rejected .selfEmbedding
    (d.take outer .call x, x)
  else
    let d := d.finish inner
    let b := d.builder inner
    let x := Contribution.embedding b.text b.fault?
    (d.take outer .call x, x)

end Desk

end CypherAssembly

------------------------------------------------------------
-- Builders After a Step
------------------------------------------------------------

namespace CypherAssembly

namespace Desk

/- A builder that takes something is that builder and more. -/
theorem builder_take_self
    (d : Desk)
    (name : String)
    (k : Keyword)
    (x : Contribution) :
    (d.take name k x).builder name =
      (d.builder name).take x := by
  simp [take, builder, Record.get?_put_self]

/- Other builders do not notice. -/
theorem builder_take_of_ne
    (d : Desk)
    (name other : String)
    (k : Keyword)
    (x : Contribution)
    (hNe : other ≠ name) :
    (d.take name k x).builder other = d.builder other := by
  simp [take, builder, Record.get?_put_of_ne _ _ _ _ hNe]

/- A builder that is finished on the desk is finished. -/
theorem builder_finish_self
    (d : Desk)
    (name : String) :
    (d.finish name).builder name =
      (d.builder name).finish := by
  by_cases hFinished : (d.builder name).isFinished = true
  · simp [finish, Builder.finish, hFinished]
  · rw [finish]
    simp only [hFinished]
    simp [builder, Record.get?_put_self]

/- Finishing one builder leaves the others as they are. -/
theorem builder_finish_of_ne
    (d : Desk)
    (name other : String)
    (hNe : other ≠ name) :
    (d.finish name).builder other = d.builder other := by
  by_cases hFinished : (d.builder name).isFinished = true
  · simp [finish, hFinished]
  · rw [finish]
    simp only [hFinished]
    simp [builder, Record.get?_put_of_ne _ _ _ _ hNe]

end Desk

end CypherAssembly
