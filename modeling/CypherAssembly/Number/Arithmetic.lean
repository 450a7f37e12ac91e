import CypherAssembly.Number.Rounding

/-
  Arithmetic with binary numbers.

  Key definitions include:
    * `Binary64.minus`
    * `Binary64.times`

  The result of a computation is the binary number nearest
  to the exact result.  A computation without a result, such
  as zero times infinity, gives no number.
-/

------------------------------------------------------------
-- Differences
------------------------------------------------------------

namespace CypherAssembly

namespace Binary64

/-
  The difference of two numbers.  Equal numbers differ by
  zero without a sign, unless the first one is the zero with
  a sign and the second one is not.
-/
def minus : Binary64 → Binary64 → Binary64
  | nan, _ => nan
  | _, nan => nan
  | infinite a, infinite b =>
      if a == b then nan else infinite a
  | infinite a, finite _ _ _ => infinite a
  | finite _ _ _, infinite b => infinite !b
  | finite a s e, finite b t f =>
      let low := min e f
      let difference :=
        signed a (s * twoTo (e - low).toNat) -
          signed b (t * twoTo (f - low).toNat)
      if difference = 0 then zero (s == 0 && a && !b)
      else
        nearest (difference < 0)
          (difference.natAbs * twoTo low.toNat)
          (twoTo (-low).toNat)

end Binary64

end CypherAssembly

------------------------------------------------------------
-- Products
------------------------------------------------------------

namespace CypherAssembly

namespace Binary64

/- Infinity, with a sign, times a number. -/
def infiniteTimes
    (negative : Bool) : Binary64 → Binary64
  | nan => nan
  | infinite b => infinite (negative != b)
  | finite b t _ =>
      if t = 0 then nan else infinite (negative != b)

/- The product of two numbers. -/
def times : Binary64 → Binary64 → Binary64
  | nan, _ => nan
  | _, nan => nan
  | infinite a, y => infiniteTimes a y
  | x, infinite b => infiniteTimes b x
  | finite a s e, finite b t f =>
      nearest (a != b) (s * t * twoTo (e + f).toNat)
        (twoTo (-(e + f)).toNat)

end Binary64

end CypherAssembly
