import CypherAssembly.Number.Reading
import CypherAssembly.Refusal

/-
  Drafts of numbers.

  Key definitions include:
    * `Value.toFloat`

  A floating-point number is described by a text, or else by
  another number that it is to be equal to.
-/

------------------------------------------------------------
-- Floating-Point Numbers
------------------------------------------------------------

namespace CypherAssembly

namespace Value

/- The floating-point number that a text describes. -/
def floatOfText
    (s : String) : Except Problem Value :=
  match Binary64.ofLooseText? s with
  | some x => .ok (.float x)
  | none => .error (.unreadableFloat s)

/- The floating-point number for an amount. -/
def floatOfAmount
    (a : Amount) : Except Problem Value :=
  match a.toBinary with
  | .ok x => .ok (.float x)
  | .error why => .error (.notComputed why)

/- The floating-point number that a value describes. -/
def toFloat
    (v : Value) : Except Refusal Value :=
  let result : Except Problem Value :=
    match v, v.amount? with
    | .text s, _ => floatOfText s
    | _, some a => floatOfAmount a
    | v, none => .error (.unfitting "number" v.kind)
  result.mapError .ofProblem

end Value

end CypherAssembly
