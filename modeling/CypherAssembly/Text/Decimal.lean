/-
  Whole numbers in decimal.

  Key definitions include:
    * `Decimal.ofNat`
    * `Decimal.ofInt`
    * `Decimal.isTooLong`

  Key theorems include:
    * `Decimal.ofNat_injective`
    * `Decimal.isDigit_of_mem_ofNat`

  A natural number is written with its decimal digits, the
  most significant one first and no leading zero.  A
  negative number has a minus sign in front of the digits
  of its absolute value.
-/

------------------------------------------------------------
-- Natural Numbers
------------------------------------------------------------

namespace CypherAssembly

namespace Decimal

/- The decimal digits of a natural number. -/
def ofNat
    (n : Nat) : String :=
  String.ofList (Nat.toDigits 10 n)

/- Only the ten digits occur in a written number. -/
theorem isDigit_of_mem_ofNat
    (n : Nat)
    (c : Char)
    (hMem : c ∈ (ofNat n).toList) :
    c.isDigit = true := by
  simp only [ofNat, String.toList_ofList] at hMem
  exact Nat.isDigit_of_mem_toDigits
    (by decide) (by decide) hMem

/- The digits read back as the number they were made from. -/
theorem ofDigitChars_ofNat
    (n : Nat) :
    Nat.ofDigitChars 10 (ofNat n).toList 0 = n := by
  simp only [ofNat, String.toList_ofList]
  exact Nat.ofDigitChars_ten_toDigits

/- Different numbers have different digits. -/
theorem ofNat_injective
    (m n : Nat)
    (hEq : ofNat m = ofNat n) :
    m = n := by
  rw [← ofDigitChars_ofNat m, hEq, ofDigitChars_ofNat]

end Decimal

end CypherAssembly

------------------------------------------------------------
-- Integers
------------------------------------------------------------

namespace CypherAssembly

namespace Decimal

/- An integer, with a minus sign when it is negative. -/
def ofInt : Int → String
  | .ofNat n => ofNat n
  | .negSucc n => "-" ++ ofNat (n + 1)

end Decimal

end CypherAssembly

------------------------------------------------------------
-- Lengths
------------------------------------------------------------

namespace CypherAssembly

namespace Decimal

/- The largest number of digits that is worked with. -/
def longest : Nat :=
  4300

/- Holds for integers with more digits than that. -/
def isTooLong
    (n : Int) : Bool :=
  longest < (ofNat n.natAbs).length

end Decimal

end CypherAssembly
