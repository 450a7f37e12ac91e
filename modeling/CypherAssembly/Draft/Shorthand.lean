import CypherAssembly.Clause
import CypherAssembly.Draft.ContentDraft

/-
  Clauses in short.

  Key definitions include:
    * `Clause.matchNode`
    * `Clause.matchRelated`
    * `Clause.returnNames`

  Frequent clauses can be asked for without making their
  content first.
-/

------------------------------------------------------------
-- Arguments
------------------------------------------------------------

namespace CypherAssembly

namespace Shorthand

/-
  The argument of a name: the one that was given, else the
  property of that name.  It cannot be both.
-/
def argument
    (name : String)
    (default : Value)
    (given : Option Value)
    (properties : Record Value) : Except Refusal Value :=
  match given, properties.get? name with
  | some _, some _ => .error (.clash name)
  | some v, none => .ok v
  | none, some v => .ok v
  | none, none => .ok default

/- A label in a list of its own, unless it is empty. -/
def labels
    (label : Value) : List Value :=
  if label.isTrue then [label] else []

end Shorthand

end CypherAssembly

------------------------------------------------------------
-- Matching
------------------------------------------------------------

namespace CypherAssembly

namespace Clause

/-
  Match a single node by its label and its properties.  The
  properties are given as named arguments, among which the
  label and the variable may be, too.
-/
def matchNode
    (label name : Option Value)
    (properties : Value) : Except Refusal Clause := do
  let properties ← Arguments.byName properties
  if (properties.get? "self").isSome then
    throw (.clash "self")
  let label ←
    Shorthand.argument "label" .null label properties
  let name ←
    Shorthand.argument "variable" (.text "n") name properties
  let rest := (properties.erase "label").erase "variable"
  let pattern ←
    Content.ofArguments (name :: Shorthand.labels label)
      rest
  return .patterns .matching [pattern]

/- Match a path between two nodes by the type of its link. -/
def matchRelated
    (start : Content)
    (type : Value)
    (finish : Content)
    (var least most : Value) : Clause :=
  let link : Relationship :=
    { var
      types := .list [type]
      least
      most }
  .patterns .matching
    [.ofFullPath start (.relationship link) finish]

end Clause

end CypherAssembly

------------------------------------------------------------
-- Returning
------------------------------------------------------------

namespace CypherAssembly

namespace Clause

/- The refusal of what is no text and so no expression. -/
def notExpression : Refusal :=
  .fields
    [{ field := "expression"
       problem := .notText }]

/-
  A projected expression from whatever is given for it.  Of
  all content, a value alone can be a text.
-/
def returnedItem : Content → Except Refusal Content
  | .bare v =>
      ContentDraft.checked Content.projection
        (Projection.ofFields .returned [("expression", v)])
  | _ => .error notExpression

/- Return expressions just as they are. -/
def returnNames
    (names : List Content) : Except Refusal Clause := do
  return .projections .returned (← names.mapM returnedItem)

end Clause

end CypherAssembly
