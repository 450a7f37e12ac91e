import CypherAssembly.Gathering
import CypherAssembly.Text.Block
import CypherAssembly.Text.Suffix

/-
  Clauses and what they contribute to a query.

  Key definitions include:
    * `Clause`
    * `Clause.keyword`
    * `Contribution`
    * `Contribution.joining`
    * `Clause.contribution`
    * `Contribution.embedding`

  What a clause contributes depends on its own arguments
  alone: the text it adds, the keywords of the clauses in
  that text, the faults it met, and a refusal if it had to
  be broken off.  A clause with nothing to say contributes a
  fault and no text.  Queries are embedded by their builders,
  so a call is a clause only when it is made with something
  that is no query.
-/

------------------------------------------------------------
-- Clauses
------------------------------------------------------------

namespace CypherAssembly

/- The clauses that are made of patterns. -/
inductive PatternClause where
  | matching
  | optionalMatching
  | merge
  | create
deriving DecidableEq, Repr

/- The keyword of a clause made of patterns. -/
def PatternClause.keyword : PatternClause → Keyword
  | matching => .matching
  | optionalMatching => .optionalMatching
  | merge => .merge
  | create => .create

/- The keyword of a clause made of projected expressions. -/
def ProjectionKind.keyword : ProjectionKind → Keyword
  | returned => .returning
  | carried => .carrying

/- A request to add something to a query. -/
inductive Clause where
  | patterns (kind : PatternClause) (given : List Content)
  | conditions (given : List Content)
  | projections (kind : ProjectionKind) (given : List Content)
  | delete (detach : Bool) (target : Content)
  | remove (target : Content)
  | orderBy (order : Content)
  | union (keepAll : Bool)
  | limit (count : Value)
  | skip (count : Value)
  | page (number size : Value)
  | call (given : Content)
deriving Repr

namespace Clause

/- The keyword that a request is known by. -/
def keyword : Clause → Keyword
  | patterns kind _ => kind.keyword
  | conditions _ => .filtering
  | projections kind _ => kind.keyword
  | delete detach _ => if detach then .detachDelete else .delete
  | remove _ => .remove
  | orderBy _ => .orderBy
  | union keepAll => if keepAll then .unionAll else .union
  | limit _ => .limit
  | skip _ => .skip
  | page _ _ => .skip
  | call _ => .call

end Clause

end CypherAssembly

------------------------------------------------------------
-- Contributions
------------------------------------------------------------

namespace CypherAssembly

/- What a request adds to a query, and why it broke off. -/
structure Contribution where
  text : String
  clauses : List Keyword
  faults : List Fault
  refusal : Option Refusal

namespace Contribution

/- Nothing is added, and the caller learns why. -/
def refused
    (r : Refusal) : Contribution :=
  { text := ""
    clauses := []
    faults := []
    refusal := some r }

/- What is added, or why nothing is. -/
def orRefused : Except Refusal Contribution → Contribution
  | .ok x => x
  | .error r => refused r

/- Nothing is added, and one fault is recorded. -/
def rejected
    (f : Fault) : Contribution :=
  { text := ""
    clauses := []
    faults := [f]
    refusal := none }

/- One clause with its text and the faults in it. -/
def single
    (k : Keyword)
    (text : String)
    (faults : List Fault) : Contribution :=
  { text
    clauses := [k]
    faults
    refusal := none }

/-
  The same, unless a piece of the text is none.  This shows
  only when all pieces are rendered, so what was recorded
  until then stays recorded.
-/
def joining
    (pieces : List Content)
    (x : Contribution) : Contribution :=
  match pieces.findSome? Content.foreign?, x.clauses with
  | some v, _ :: _ =>
      { refused (.notJoined v.kind) with
        faults := x.faults }
  | _, _ => x

/- Nothing changes when all pieces are texts. -/
theorem joining_of_texts
    (pieces : List Content)
    (x : Contribution)
    (hTexts : ∀ c ∈ pieces, c.foreign? = none) :
    x.joining pieces = x := by
  simp [joining, List.findSome?_eq_none_iff.mpr hTexts]

/-
  Rows to skip and rows to stay within, each in its text.
  The first line is there already when the second one turns
  out to be impossible.
-/
def paged
    (before : String) : Except Refusal String → Contribution
  | .ok size =>
      { text :=
          Keyword.skip.clause before ++
            Keyword.limit.clause size
        clauses := [.skip, .limit]
        faults := []
        refusal := none }
  | .error r =>
      { single .skip (Keyword.skip.clause before) [] with
        refusal := some r }

/- One clause with its operand, on a line of its own. -/
def line
    (k : Keyword)
    (operand : Gathered String) : Contribution :=
  single k (k.clause operand.value) operand.faults

/- The same, with a separator at the end trimmed off. -/
def trimmedLine
    (k : Keyword)
    (operand : Gathered String) : Contribution :=
  single k
    (trimSuffix ", " (k.phrase operand.value) ++ "\n")
    operand.faults

end Contribution

end CypherAssembly

------------------------------------------------------------
-- What Clauses Contribute
------------------------------------------------------------

namespace CypherAssembly

namespace Clause

/- Patterns side by side. -/
def ofPatterns
    (k : Keyword)
    (given : List Content) : Contribution :=
  if given.isEmpty then .rejected (.emptyPatterns k)
  else
    let text := resolveAll (.ok (some k.text)) given
    match text.outcome with
    | .ok operand =>
        .line k
          { value := operand
            faults := text.faults }
    | .error refusal =>
        { Contribution.refused refusal with
          faults := text.faults }

/- Conditions side by side. -/
def ofConditions
    (given : List Content) : Contribution :=
  if given.isEmpty then .rejected (.emptyClause .filtering)
  else
    .line .filtering (concat Keyword.filtering.text given)

/-
  Each projected expression has a separator behind it, and
  the last separator is trimmed off.
-/
def ofProjections
    (k : Keyword)
    (given : List Content) : Contribution :=
  if given.isEmpty then .rejected (.emptyClause k)
  else
    let texts := compose k.text given
    .trimmedLine k
      { value := String.join (texts.value.map (· ++ ", "))
        faults := texts.faults }

/-
  What content contributes to a clause that has no other
  content, unless there is nothing in it.  First it has to
  say whether there is.
-/
def unlessVacant
    (k : Keyword)
    (given : Content)
    (x : Contribution) : Contribution :=
  match given.obstacle? with
  | some problem => .refused (.ofProblem problem)
  | none =>
      if given.isVacant then .rejected (.emptyClause k) else x

/- A single operand. -/
def ofSingle
    (k : Keyword)
    (given : Content) : Contribution :=
  unlessVacant k given
    (.line k (renderOne (.inClause k.text 0) given))

/- A target to remove. -/
def ofRemoval
    (target : Content) : Contribution :=
  unlessVacant .remove target
    (.trimmedLine .remove
      (concat Keyword.remove.text [target]))

/- A number of rows, whatever it is, as it is written. -/
def rowCount
    (count : Value) : Except Refusal String :=
  (count.inText Value.plain).mapError .fault

/- A line with a number of rows. -/
def ofCount
    (k : Keyword)
    (count : Value) : Contribution :=
  .orRefused
    ((rowCount count).map fun text =>
      .single k (k.clause text) [])

/-
  The amount that a value is, or nothing if it is less than
  one.  Values that are no numbers are refused.
-/
def fromOne
    (v : Value) : Except Refusal (Option Amount) :=
  match v.amount? with
  | some a =>
      .ok (if a.isBelow (.whole 1) then none else some a)
  | none =>
      .error (.ofProblem (.notOrdered
        { first := v.kind
          second := .int }))

/- The number of rows on the pages before a page. -/
def rowsBefore
    (position size : Amount) :
    Except AmountProblem String := do
  let pages ← position.minus (.whole 1)
  let rows ← pages.times size
  rows.text

/-
  One page of results: first the rows of the pages before it
  are skipped, then the rows are limited to one page.  Pages
  are counted from one.
-/
def ofPage
    (number size : Value) : Except Refusal Contribution := do
  match ← fromOne number with
  | none => return .rejected (.pageOutOfRange .page)
  | some position =>
      match ← fromOne size with
      | none => return .rejected (.pageOutOfRange .pageSize)
      | some rows =>
          let before ← (rowsBefore position rows).mapError
            fun why => .ofProblem (.notComputed why)
          return .paged before (rowCount size)

/- What a request contributes to an unfinished query. -/
def contribution : Clause → Contribution
  | patterns kind given =>
      (ofPatterns kind.keyword given).joining
        (given.filterMap Content.preferred?)
  | conditions given => (ofConditions given).joining given
  | projections kind given =>
      (ofProjections kind.keyword given).joining given
  | delete detach target =>
      (ofSingle (keyword (delete detach target)) target
        ).joining [target]
  | remove target => (ofRemoval target).joining [target]
  | orderBy order =>
      (ofSingle .orderBy order).joining [order]
  | union keepAll =>
      let k := keyword (union keepAll)
      .single k (k.text ++ "\n") []
  | limit count => ofCount .limit count
  | skip count => ofCount .skip count
  | page number size => .orRefused (ofPage number size)
  | call given => .refused (.ofProblem given.strangeness)

end Clause

namespace Contribution

/-
  A finished query inside another one.  The bundled faults
  of the inner query count as one fault of the outer one.
-/
def embedding
    (text : String)
    (fault : Option Fault) : Contribution :=
  single .call (Block.call text) fault.toList

end Contribution

end CypherAssembly
