import CypherAssembly.Number.Binary64

/-
  Rounding to binary numbers.

  Key definitions include:
    * `nearestBinary`
    * `Binary64.nearest`
    * `Binary64.ofInt?`

  Of the binary numbers the nearest one is taken, and of two
  equally near ones the one with the even significand.
  Beyond the largest number lies infinity.
-/

------------------------------------------------------------
-- Rounding
------------------------------------------------------------

namespace CypherAssembly

/- The quotient, rounded to the nearest, ties to even. -/
def roundedQuotient
    (n d : Nat) : Nat :=
  let q := n / d
  let r := n % d
  if 2 * r < d then q
  else if d < 2 * r then q + 1
  else if q % 2 = 0 then q
  else q + 1

/-
  The exponent that leaves 53 bits of `n / d` in front of
  the point, or as many as there are above the least one.
-/
def exponentFor
    (n d : Nat) : Int :=
  let high : Int := (n.log2 : Int) - d.log2 - 53
  let whole := n * twoTo (-high).toNat / (d * twoTo high.toNat)
  max (-1074) (if whole < twoTo 53 then high else high + 1)

/- Significand and exponent nearest to the fraction `n / d`. -/
def nearestBinary
    (n d : Nat) : Nat × Int :=
  let e := exponentFor n d
  let s := roundedQuotient (n * twoTo (-e).toNat)
    (d * twoTo e.toNat)
  if s = twoTo 53 then (twoTo 52, e + 1) else (s, e)

end CypherAssembly

------------------------------------------------------------
-- Numbers
------------------------------------------------------------

namespace CypherAssembly

namespace Binary64

/- Zero, which has a sign like any other number. -/
def zero
    (negative : Bool) : Binary64 :=
  finite negative 0 (-1074)

/- The binary number nearest to the fraction `n / d`. -/
def nearest
    (negative : Bool)
    (n d : Nat) : Binary64 :=
  if n = 0 then zero negative
  else
    let (s, e) := nearestBinary n d
    if 971 < e then infinite negative else finite negative s e

/- The number nearest to an integer, unless it is infinite. -/
def ofInt?
    (n : Int) : Option Binary64 :=
  match nearest (n < 0) n.natAbs 1 with
  | infinite _ => none
  | x => some x

end Binary64

end CypherAssembly
