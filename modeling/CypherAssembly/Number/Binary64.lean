/-
  Binary floating-point numbers of 64 bits.

  Key definitions include:
    * `twoTo`
    * `tenTo`
    * `signed`
    * `Binary64`
    * `Binary64.isZero`
    * `Binary64.toInt?`

  A finite number is kept as a natural number times a power
  of two, so that everything said about it is said in exact
  arithmetic.
-/

------------------------------------------------------------
-- Powers and Signs
------------------------------------------------------------

namespace CypherAssembly

/- A power of two. -/
def twoTo
    (n : Nat) : Nat :=
  Nat.pow 2 n

/- A power of ten. -/
def tenTo
    (n : Nat) : Nat :=
  Nat.pow 10 n

/- A natural number with a sign. -/
def signed
    (negative : Bool)
    (n : Nat) : Int :=
  if negative then -(n : Int) else n

end CypherAssembly

------------------------------------------------------------
-- Numbers
------------------------------------------------------------

namespace CypherAssembly

/-
  A finite number is `significand * 2 ^ exponent`, with a
  sign of its own, since zero has one too.  Significands
  have 53 bits at most, and exponents are -1074 at least; of
  several such products for one number, the one with the
  smallest exponent is meant.
-/
inductive Binary64 where
  | nan
  | infinite (negative : Bool)
  | finite
      (negative : Bool)
      (significand : Nat)
      (exponent : Int)
deriving DecidableEq, Repr

namespace Binary64

/- Holds for the two zeros. -/
def isZero : Binary64 → Bool
  | finite _ significand _ => significand == 0
  | _ => false

/- The same number as an integer, if it is a whole number. -/
def toInt? : Binary64 → Option Int
  | finite negative significand exponent =>
      let sign : Int := if negative then -1 else 1
      if 0 ≤ exponent then
        some (sign * (significand * twoTo exponent.toNat : Nat))
      else if significand % twoTo exponent.natAbs = 0 then
        some (sign * (significand / twoTo exponent.natAbs : Nat))
      else
        none
  | _ => none

end Binary64

end CypherAssembly
