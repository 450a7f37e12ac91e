import CypherAssembly.Fault
import CypherAssembly.Text.Blank

/-
  Expressions in content.

  Key definitions include:
    * `Expression.text`
    * `Expression.read`
    * `Expression.elements`

  Expressions are texts that are not blank.  They are kept
  as the values that a caller gave, and only when content is
  rendered does it show whether they are what they should
  be.
-/

------------------------------------------------------------
-- Expressions
------------------------------------------------------------

namespace CypherAssembly

namespace Expression

/- An expression has to be a text. -/
def text : Value → Except Fault String
  | .text s => .ok s
  | v => .error (.outside (.lacking (.value v.kind) "strip"))

/- An expression that is not blank, else the given fault. -/
def read
    (blank : Fault)
    (v : Value) : Except Fault String := do
  let s ← text v
  if isBlank s then throw blank else return s

/- The elements of what should be a list of expressions. -/
def elements
    (v : Value) : Except Fault (List Value) :=
  match v.elements? with
  | some elements => .ok elements
  | none => .error (.outside (.notIterable v.kind))

end Expression

end CypherAssembly
