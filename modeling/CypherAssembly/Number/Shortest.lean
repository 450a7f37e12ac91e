import CypherAssembly.Number.Binary64

/-
  The shortest decimal that reads back as a binary number.

  Key definitions include:
    * `Interval`
    * `Interval.ofFinite`
    * `Interval.onGrid?`
    * `shortestDecimal`

  Reading rounds to the nearest binary number, so each
  positive binary number owns an interval of reals.  Grids
  of decimals are tried from one digit to seventeen.  On the
  first grid that has a point in the interval, the point
  nearest to the number is chosen, and of two equally near
  points the even one.  All comparisons are made between
  natural numbers over a common denominator.
-/

------------------------------------------------------------
-- Intervals
------------------------------------------------------------

namespace CypherAssembly

/-
  The reals that round to one positive number.  The number
  and both ends are fractions over `denominator`, and
  `closed` says whether the ends themselves belong to it.
-/
structure Interval where
  low : Nat
  value : Nat
  high : Nat
  denominator : Nat
  closed : Bool
deriving DecidableEq, Repr

namespace Interval

/-
  The interval of `significand * 2 ^ exponent`.  Its ends
  lie half way to the neighbours.  The lower neighbour is
  only half as far away where the exponent steps down.
-/
def ofFinite
    (significand : Nat)
    (exponent : Int) : Interval :=
  let below :=
    if significand = twoTo 52 && -1074 < exponent then 1 else 2
  let scale := twoTo (exponent - 2).toNat
  { low := (4 * significand - below) * scale
    value := 4 * significand * scale
    high := (4 * significand + 2) * scale
    denominator := twoTo (2 - exponent).toNat
    closed := significand % 2 == 0 }

/- Whether the fraction `n / denominator` lies inside. -/
def holds
    (i : Interval)
    (n : Nat) : Bool :=
  if i.closed then
    i.low ≤ n && n ≤ i.high
  else
    i.low < n && n < i.high

/- Multiply every fraction by the same natural number. -/
def scaled
    (i : Interval)
    (factor : Nat) : Interval :=
  { i with
    low := i.low * factor
    value := i.value * factor
    high := i.high * factor }

/-
  The multiple of `10 ^ place` inside the interval that is
  nearest to its number, given by its factor.  Only the two
  multiples on either side of the number can be inside when
  any multiple is.
-/
def onGrid?
    (i : Interval)
    (place : Int) : Option Nat :=
  let i := i.scaled (tenTo (-place).toNat)
  let unit := i.denominator * tenTo place.toNat
  let c := i.value / unit
  match i.holds (c * unit), i.holds ((c + 1) * unit) with
  | false, false => none
  | true, false => some c
  | false, true => some (c + 1)
  | true, true =>
      let down := i.value - c * unit
      let up := (c + 1) * unit - i.value
      if down < up then some c
      else if up < down then some (c + 1)
      else if c % 2 = 0 then some c
      else some (c + 1)

/-
  The place of the leading digit of the number.  No finite
  number is so small that the factor leaves less than one.
-/
def leadingPlace
    (i : Interval) : Int :=
  let whole := i.value * tenTo 330 / i.denominator
  (Nat.toDigits 10 whole).length - 331

end Interval

end CypherAssembly

------------------------------------------------------------
-- Digits
------------------------------------------------------------

namespace CypherAssembly

/- Decimal digits, and the place of the point among them. -/
structure DecimalDigits where
  digits : List Char
  point : Int
deriving DecidableEq, Repr

/- The digits of `n * 10 ^ place`, without zeros at the end. -/
def DecimalDigits.ofPlace
    (n : Nat)
    (place : Int) : DecimalDigits :=
  let all := Nat.toDigits 10 n
  { digits := (all.reverse.dropWhile (· == '0')).reverse
    point := all.length + place }

/-
  The shortest decimal that reads back as the positive
  number `significand * 2 ^ exponent`.
-/
def shortestDecimal
    (significand : Nat)
    (exponent : Int) : DecimalDigits :=
  let i := Interval.ofFinite significand exponent
  let top := i.leadingPlace
  let found :=
    (List.range 17).findSome? fun (more : Nat) =>
      let place := top - more
      (i.onGrid? place).map (DecimalDigits.ofPlace · place)
  found.getD ⟨[], 0⟩

end CypherAssembly
