import CypherAssembly.Number.Rounding
import CypherAssembly.Text.Blank
import CypherAssembly.Text.Capital
import CypherAssembly.Text.Digit

/-
  Reading binary numbers from decimal text.

  Key definitions include:
    * `Binary64.ofDecimal`
    * `Binary64.ofText?`
    * `Binary64.ofLooseText?`

  A decimal text names the binary number that is nearest to
  it.  There are texts for infinity and for no number, too.
-/

------------------------------------------------------------
-- Decimals
------------------------------------------------------------

namespace CypherAssembly

namespace Binary64

/-
  The binary number nearest to `n * 10 ^ place`.  Numbers of
  more than 400 digits before or after the point need no
  computation: they are infinite or zero.
-/
def ofDecimal
    (negative : Bool)
    (n : Nat)
    (place : Int) : Binary64 :=
  let size := (Nat.toDigits 10 n).length + place
  if n = 0 || size < -400 then zero negative
  else if 400 < size then infinite negative
  else
    nearest negative
      (n * tenTo place.toNat) (tenTo (-place).toNat)

end Binary64

end CypherAssembly

------------------------------------------------------------
-- Texts
------------------------------------------------------------

namespace CypherAssembly

namespace Binary64

/- A sign, if there is one, and what follows it. -/
def takeSign : List Char → Bool × List Char
  | '-' :: rest => (true, rest)
  | '+' :: rest => (false, rest)
  | cs => (false, cs)

/- All characters are digits, and there is one at least. -/
def areDigits
    (cs : List Char) : Bool :=
  !cs.isEmpty && cs.all Char.isDigit

/- An exponent of ten, zero when it is left out. -/
def exponent? : List Char → Option Int
  | [] => some 0
  | _ :: cs =>
      let (negative, ds) := takeSign cs
      let n : Int := Nat.ofDigitChars 10 ds 0
      if areDigits ds then some (if negative then -n else n)
      else none

/- Digits around a point, and the number behind it. -/
def mantissa?
    (cs : List Char) : Option (Nat × Nat) :=
  let whole := cs.takeWhile (· != '.')
  let fraction := (cs.drop whole.length).drop 1
  let ds := whole ++ fraction
  if areDigits ds then
    some (Nat.ofDigitChars 10 ds 0, fraction.length)
  else none

/- A number in decimal, infinity, or no number. -/
def ofText?
    (text : String) : Option Binary64 :=
  let (negative, cs) := takeSign (Small.ofText text).toList
  match String.ofList cs with
  | "nan" => some nan
  | "inf" => some (infinite negative)
  | "infinity" => some (infinite negative)
  | _ => do
      let front := cs.takeWhile (· != 'e')
      let (n, places) ← mantissa? front
      let e ← exponent? (cs.drop front.length)
      some (ofDecimal negative n (e - places))

/- Underscores are fine one by one and between digits. -/
def joinDigits? : List Char → Option (List Char)
  | [] => some []
  | [c] => if c == '_' then none else some [c]
  | c :: '_' :: rest =>
      if c.isDigit && (rest.head?.map Char.isDigit).getD false
      then (joinDigits? rest).map (c :: ·)
      else none
  | c :: rest =>
      if c == '_' then none
      else (joinDigits? rest).map (c :: ·)

/-
  The same in digits of any script, with white space around
  the number.
-/
def ofLooseText?
    (text : String) : Option Binary64 := do
  let cs := (trimPadding text.toList).map Digit.western
  ofText? (String.ofList (← joinDigits? cs))

end Binary64

end CypherAssembly
