import CypherAssembly.Fault.Details
import CypherAssembly.Fault.Kind
import CypherAssembly.Keyword
import CypherAssembly.Name

/-
  Faults, everything that can go wrong with a query.

  Key definitions include:
    * `Fault`
    * `Value.inText`
    * `Fault.message`
    * `Fault.kind?`
    * `Fault.kindName`
    * `Fault.details?`
    * `Fault.cause?`
    * `Fault.placed`

  A fault is kept as its cause.  Its wording, its code, its
  severity and its details are all computed from the cause.
  The faults of one query are bundled into a single fault,
  whose message lists their messages and counts them.
-/

------------------------------------------------------------
-- Faults
------------------------------------------------------------

namespace CypherAssembly

/- The two arguments that choose a page. -/
inductive PageArgument where
  | page
  | pageSize
deriving DecidableEq, Repr

/- The argument as messages call it. -/
def PageArgument.name : PageArgument → String
  | page => "page"
  | pageSize => "page_size"

/-
  What can go wrong.  The first group of causes is found by
  the clauses of a query, the second one by its content.
  `reported` is a fault that content brings along in its
  own words, `outside` a problem that is no fault yet, and
  `wrapped` the fault that is made of such a problem once
  its place in a clause is known.
-/
inductive Fault where
  | emptyPatterns (keyword : Keyword)
  | emptyClause (keyword : Keyword)
  | unsetPattern (spot : Spot)
  | pageOutOfRange (argument : PageArgument)
  | selfEmbedding
  | finalized (keyword : Keyword)
  | badName (role : NameRole) (name : String)
  | crossedHops (least most : Value)
  | unknownDirection (given : Value)
  | blankCondition
  | blankProjection (kind : ProjectionKind)
  | blankTarget (position : Nat)
  | blankOrdering
  | reported
      (kind : FaultKind)
      (message : String)
      (details : Details)
  | outside (problem : Problem)
  | wrapped
      (problem : Problem)
      (contentKind : ContentKind)
      (spot : Spot)
  | composite (faults : List Fault)
deriving Repr

/- A value that is written into a text, or why it is not. -/
def Value.inText
    (form : Value → String)
    (v : Value) : Except Fault String :=
  (v.print form).mapError fun why =>
    .outside (.notComputed why)

end CypherAssembly

------------------------------------------------------------
-- Wording
------------------------------------------------------------

namespace CypherAssembly

/- What an empty clause is called. -/
def Keyword.clauseName : Keyword → String
  | delete => "Delete"
  | detachDelete => "Delete"
  | filtering => "Where"
  | returning => "Return"
  | carrying => "WITH"
  | remove => "Remove"
  | orderBy => "OrderBy"
  | k => k.text

/- The message that bundles other messages. -/
def bundle
    (messages : List String) : String :=
  "errors found: " ++ ";".intercalate messages ++
    " -- total errors (" ++
    Decimal.ofNat messages.length ++ ")"

mutual

/- The wording of a fault. -/
def Fault.message : Fault → String
  | .emptyPatterns k => "error empty " ++ k.text ++ " patterns"
  | .emptyClause k => "error empty " ++ k.clauseName ++ " clause"
  | .unsetPattern spot =>
      "error empty pattern in " ++
        (Value.ofText? spot.clause).plain ++ " clause"
  | .pageOutOfRange argument =>
      "error paginate " ++ argument.name ++
        " must be greater than or equal to 1"
  | .selfEmbedding =>
      "error CALL subquery is the enclosing builder"
  | .finalized k =>
      "error " ++ k.text ++ " clause added after execute"
  | .badName role name =>
      "error invalid " ++ role.text ++ " " ++ Quoted.write name
  | .crossedHops least most =>
      "error relationship min_hops (" ++ least.plain ++
        ") greater than max_hops (" ++ most.plain ++ ")"
  | .unknownDirection given =>
      "error unknown relationship direction " ++ given.shown
  | .blankCondition => "error empty Where condition"
  | .blankProjection kind =>
      "error empty " ++ kind.contentKind.name ++ " expression"
  | .blankTarget position =>
      "error blank remove target at position " ++
        Decimal.ofNat position
  | .blankOrdering => "error blank OrderBy expression"
  | .reported _ message _ => message
  | .outside problem => problem.message
  | .wrapped problem _ _ => problem.message
  | .composite faults => bundle (Fault.messages faults)

/- The wordings of several faults. -/
def Fault.messages : List Fault → List String
  | [] => []
  | f :: rest => f.message :: Fault.messages rest

end

/- One wording for each fault, in order. -/
theorem Fault.messages_eq_map
    (faults : List Fault) :
    Fault.messages faults = faults.map Fault.message := by
  induction faults with
  | nil => rfl
  | cons f rest ih => simp [Fault.messages, ih]

end CypherAssembly

------------------------------------------------------------
-- Kind, Details and Cause
------------------------------------------------------------

namespace CypherAssembly

namespace Fault

/- The kind of a fault.  A problem from outside has none. -/
def kind? : Fault → Option FaultKind
  | emptyPatterns _ => some .emptyClause
  | emptyClause _ => some .emptyClause
  | unsetPattern _ => some .emptyPattern
  | pageOutOfRange _ => some .invalidArgument
  | selfEmbedding => some .invalidArgument
  | finalized _ => some .finalized
  | badName _ _ => some .renderFailed
  | crossedHops _ _ => some .renderFailed
  | unknownDirection _ => some .renderFailed
  | blankCondition => some .renderFailed
  | blankProjection _ => some .renderFailed
  | blankTarget _ => some .renderFailed
  | blankOrdering => some .renderFailed
  | reported kind _ _ => some kind
  | outside _ => none
  | wrapped _ _ _ => some .renderFailed
  | composite _ => some .composite

/- The name of the kind of a fault or of a problem. -/
def kindName : Fault → String
  | outside problem => problem.name
  | f => (f.kind?.map FaultKind.name).getD ""

/-
  Where a fault occurred.  Faults of names, hops, directions
  and blank expressions do not know their place.
-/
def details? : Fault → Option Details
  | emptyPatterns k =>
      some (.inClause "query_builder" "guard" k.text)
  | emptyClause k =>
      some (.inClause "query_builder" "guard" k.text)
  | unsetPattern spot =>
      some
        { source := "pattern_resolver"
          operation := "resolve"
          placement := some (.ofSpot spot none)
          moment := none }
  | pageOutOfRange _ =>
      some (.inClause "pagination" "paginate" Keyword.skip.text)
  | selfEmbedding =>
      some (.inClause "query_builder" "call" Keyword.call.text)
  | finalized k =>
      some (.inClause "query_builder" "append" k.text)
  | reported _ _ details => some details
  | outside _ => none
  | wrapped _ kind spot =>
      some
        { source := kind.name
          operation := "render"
          placement := some (.ofSpot spot (some kind.name))
          moment := none }
  | composite _ =>
      some
        { Details.unknown with
          source := "query_builder"
          operation := "execute" }
  | _ => some .unknown

/- The problem from outside that a fault was made of. -/
def cause? : Fault → Option Problem
  | wrapped problem _ _ => some problem
  | _ => none

/-
  The fault as it is recorded for content of the given kind
  at the given spot: a problem from outside is wrapped, any
  other fault is recorded as it is.
-/
def placed
    (kind : ContentKind)
    (spot : Spot) : Fault → Fault
  | outside problem => wrapped problem kind spot
  | f => f

end Fault

end CypherAssembly
