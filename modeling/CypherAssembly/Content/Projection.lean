import CypherAssembly.Content.Expression

/-
  Projected expressions.

  Key definitions include:
    * `Projection`
    * `Projection.ofParts`
    * `Projection.written`
    * `Projection.render`

  What a query returns or carries on is a list of
  expressions, each of which may be given a name.
-/

------------------------------------------------------------
-- Projections
------------------------------------------------------------

namespace CypherAssembly

/-
  An expression to return or to carry on.  A name that
  counts as false is none.
-/
structure Projection where
  kind : ProjectionKind
  expression : Value
  name : Value := .null
deriving Repr

namespace Projection

/- A projected expression with parts as they should be. -/
def ofParts
    (kind : ProjectionKind)
    (expression : String)
    (name : Option String) : Projection :=
  { kind
    expression := .text expression
    name := .ofText? name }

/-
  A projected expression written from its parts.  A part
  that cannot be had matters when its turn comes.
-/
def written
    (kind : ProjectionKind)
    (expression name : Except Fault Value) :
    Except Fault String := do
  let expression ←
    Expression.read (.blankProjection kind) (← expression)
  let name ← name
  if name.isTrue then
    return expression ++ " AS " ++
      (← name.inText Value.plain)
  else
    return expression

/- The expression, with the name that it is given. -/
def render
    (p : Projection) : Except Fault String :=
  written p.kind (.ok p.expression) (.ok p.name)

end Projection

end CypherAssembly
