import CypherAssembly.Number.Shortest
import CypherAssembly.Text.Decimal

/-
  The text of a binary number.

  Key definitions include:
    * `Layout`
    * `Layout.standard`
    * `Layout.positional`
    * `Layout.scientific`
    * `Binary64.text`

  A number is written with its shortest digits.  When the
  place of its leading digit lies in a fixed range, the
  digits stand around a point in their own places, with one
  digit after the point at least.  Otherwise the point stands
  behind the leading digit and an exponent of ten follows.
-/

------------------------------------------------------------
-- Layouts
------------------------------------------------------------

namespace CypherAssembly

/-
  Where digits are written in their own places, and how wide
  the exponent is otherwise.
-/
structure Layout where
  /- The lowest place of a leading digit so written. -/
  lowest : Int
  /- The highest place of a leading digit so written. -/
  highest : Int
  /- The least number of digits in an exponent. -/
  exponentWidth : Nat

namespace Layout

/- Places from the ten-thousandths up to ten to the 15th. -/
def standard : Layout :=
  { lowest := -4
    highest := 15
    exponentWidth := 2 }

/- Digits in their own places around the point. -/
def positional
    (d : DecimalDigits) : List Char :=
  let size := d.digits.length
  if d.point ≤ 0 then
    '0' :: '.' ::
      List.replicate d.point.natAbs '0' ++ d.digits
  else if size ≤ d.point then
    d.digits ++
      List.replicate (d.point.toNat - size) '0' ++ ['.', '0']
  else
    d.digits.take d.point.toNat ++
      '.' :: d.digits.drop d.point.toNat

/- An exponent of ten, always with its sign. -/
def exponent
    (width : Nat)
    (e : Int) : List Char :=
  let digits := Nat.toDigits 10 e.natAbs
  'e' :: (if e < 0 then '-' else '+') ::
    List.replicate (width - digits.length) '0' ++ digits

/- The leading digit, the others, and the exponent. -/
def scientific
    (width : Nat)
    (d : DecimalDigits) : List Char :=
  let rest := d.digits.drop 1
  d.digits.take 1 ++
    (if rest.isEmpty then [] else '.' :: rest) ++
    exponent width (d.point - 1)

/- Positional inside the range, scientific outside. -/
def write
    (layout : Layout)
    (d : DecimalDigits) : List Char :=
  let leading := d.point - 1
  if layout.lowest ≤ leading && leading ≤ layout.highest then
    positional d
  else
    scientific layout.exponentWidth d

end Layout

end CypherAssembly

------------------------------------------------------------
-- Numbers
------------------------------------------------------------

namespace CypherAssembly

namespace Binary64

/- The sign of a number that has one to show. -/
def signText
    (negative : Bool) : String :=
  if negative then "-" else ""

/- A number in the standard layout. -/
def text : Binary64 → String
  | nan => "nan"
  | infinite negative => signText negative ++ "inf"
  | finite negative 0 _ => signText negative ++ "0.0"
  | finite negative significand exponent =>
      signText negative ++ String.ofList
        (Layout.standard.write
          (shortestDecimal significand exponent))

end Binary64

end CypherAssembly
