import Mathlib.Algebra.Group.Nat.Defs
import CypherAssembly.Fault
import CypherAssembly.Proofs.Steps

/-
  Values that are too long to be written.

  Key definitions include:
    * `Value.faults`

  Key theorems include:
    * `Decimal.isTooLong_iff`
    * `Binary64.ofInt?_of_tooLong`
    * `Value.inText_ok`
    * `Value.stops_inText`

  A whole number can be written if it has no more digits
  than the limit, that is, if it is less than the power of
  ten with that exponent.  A number above the limit is also
  far above all binary numbers.
-/

------------------------------------------------------------
-- Whole Numbers
------------------------------------------------------------

namespace CypherAssembly

/- The numbers that are too long begin at a power of ten. -/
theorem Decimal.isTooLong_iff
    (n : Int) :
    isTooLong n = true ↔ 10 ^ longest ≤ n.natAbs := by
  have hDigits :
      (Nat.toDigits 10 n.natAbs).length ≤ longest ↔
        n.natAbs < 10 ^ longest :=
    Nat.length_toDigits_le_iff (by decide) (by decide)
  simp only [isTooLong, ofNat, String.length_ofList,
    decide_eq_true_eq]
  omega

/- A multiple of a number that is too long is too long. -/
theorem Decimal.isTooLong_mul
    {m n : Int}
    (hSome : m ≠ 0)
    (hLong : isTooLong n = true) :
    isTooLong (m * n) = true := by
  rw [isTooLong_iff] at hLong ⊢
  rw [Int.natAbs_mul]
  have hPositive : 0 < m.natAbs := Int.natAbs_pos.mpr hSome
  exact
    Nat.le_trans hLong (Nat.le_mul_of_pos_left _ hPositive)

/- A number that is too long has at least that many bits. -/
theorem Decimal.longest_le_log2
    {n : Int}
    (hLong : isTooLong n = true) :
    longest ≤ n.natAbs.log2 := by
  rw [isTooLong_iff] at hLong
  have hSome : n.natAbs ≠ 0 :=
    Nat.ne_of_gt
      (Nat.lt_of_lt_of_le (Nat.pow_pos (by decide)) hLong)
  rw [Nat.le_log2 hSome]
  exact
    Nat.le_trans (Nat.pow_le_pow_left (by decide) longest)
      hLong

/- The exponent of a whole number is that of its highest bit. -/
theorem exponentFor_one
    (n : Nat) :
    (n.log2 : Int) - 53 ≤ exponentFor n 1 := by
  have hOne : (1 : Nat).log2 = 0 := rfl
  unfold exponentFor
  simp only [hOne]
  split <;> omega

/- No binary number comes near to one that is too long. -/
theorem Binary64.ofInt?_of_tooLong
    {n : Int}
    (hLong : Decimal.isTooLong n = true) :
    ofInt? n = none := by
  have hBits : 4300 ≤ n.natAbs.log2 :=
    Decimal.longest_le_log2 hLong
  have hSome : n.natAbs ≠ 0 := by
    intro hZero
    rw [hZero, Nat.log2_zero] at hBits
    omega
  have hExponent := exponentFor_one n.natAbs
  have hAbove : 971 < (nearestBinary n.natAbs 1).2 := by
    unfold nearestBinary
    simp only
    split
    · simp only
      omega
    · simp only
      omega
  unfold ofInt? nearest
  simp only [if_neg hSome, if_pos hAbove]

end CypherAssembly

------------------------------------------------------------
-- Values
------------------------------------------------------------

namespace CypherAssembly

namespace Value

/- The fault of a value that is too long to be written. -/
def faults
    (v : Value) : List Fault :=
  if v.isTooLong then [.outside (.notComputed .tooLong)]
  else []

theorem faults_eq_nil_iff
    (v : Value) :
    v.faults = [] ↔ v.isTooLong = false := by
  simp [faults]

/- A value is written in its form, unless it is too long. -/
theorem stops_inText
    (form : Value → String)
    (v : Value) :
    StopsAtFirst v.faults (v.inText form) := by
  unfold faults inText print
  cases v.isTooLong with
  | true => exact StopsAtFirst.error _
  | false => exact StopsAtFirst.ok _

theorem inText_of_short
    (form : Value → String)
    {v : Value}
    (hShort : v.isTooLong = false) :
    v.inText form = .ok (form v) := by
  unfold inText print
  rw [hShort]
  rfl

theorem inText_of_tooLong
    (form : Value → String)
    {v : Value}
    (hLong : v.isTooLong = true) :
    v.inText form =
      .error (.outside (.notComputed .tooLong)) := by
  unfold inText print
  rw [hLong]
  rfl

/- What is written is the form of a value that is short. -/
theorem inText_ok
    {form : Value → String}
    {v : Value}
    {text : String}
    (hOk : v.inText form = .ok text) :
    v.isTooLong = false ∧ text = form v := by
  cases hLong : v.isTooLong with
  | true =>
      rw [inText_of_tooLong form hLong] at hOk
      cases hOk
  | false =>
      rw [inText_of_short form hLong] at hOk
      exact ⟨rfl, (Except.ok.inj hOk).symm⟩

/- Only what is too long is not written. -/
theorem inText_error
    {form : Value → String}
    {v : Value}
    {f : Fault}
    (hError : v.inText form = .error f) :
    v.isTooLong = true ∧
      f = .outside (.notComputed .tooLong) := by
  cases hLong : v.isTooLong with
  | true =>
      rw [inText_of_tooLong form hLong] at hError
      exact ⟨rfl, (Except.error.inj hError).symm⟩
  | false =>
      rw [inText_of_short form hLong] at hError
      cases hError

end Value

end CypherAssembly
