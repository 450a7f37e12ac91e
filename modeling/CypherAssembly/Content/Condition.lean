import CypherAssembly.Content.Expression

/-
  Conditions.

  Key definitions include:
    * `Condition`
    * `Condition.ofParts`
    * `Condition.written`
    * `Condition.render`

  Conditions are put side by side with nothing between them,
  so a condition brings along the operator that joins it to
  the one before.
-/

------------------------------------------------------------
-- Conditions
------------------------------------------------------------

namespace CypherAssembly

/-
  A condition that query results have to meet.  An operator
  that counts as false is none.
-/
structure Condition where
  expression : Value
  operator : Value := .null
  negate : Value := .bool false
deriving Repr

namespace Condition

/- A condition with parts as they should be. -/
def ofParts
    (expression : String)
    (operator : Option String)
    (negate : Bool) : Condition :=
  { expression := .text expression
    operator := .ofText? operator
    negate := .bool negate }

/-
  A condition written from its parts.  A part that cannot be
  had matters when its turn comes.
-/
def written
    (expression negate operator : Except Fault Value) :
    Except Fault String := do
  let expression ←
    Expression.read .blankCondition (← expression)
  let body :=
    if (← negate).isTrue then "NOT " ++ expression
    else expression
  let operator ← operator
  if operator.isTrue then
    return " " ++ (← operator.inText Value.plain) ++ " " ++
      body
  else
    return body

/- The text of a condition with something to say. -/
def render
    (c : Condition) : Except Fault String :=
  written (.ok c.expression) (.ok c.negate) (.ok c.operator)

end Condition

end CypherAssembly
