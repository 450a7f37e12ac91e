import CypherAssembly.Number.Arithmetic
import CypherAssembly.Value.Order

/-
  Amounts, the values that one can compute with.

  Key definitions include:
    * `Amount`
    * `Amount.minus`
    * `Amount.times`
    * `Amount.isBelow`
    * `Amount.text`
    * `Value.amount?`
    * `Value.print`

  Whole amounts are computed with exactly.  If one of two
  amounts is a binary number, the other one is turned into a
  binary number as well, and the result is rounded.  Values
  of any kind are written by `Value.print`, which fails where
  a whole number is too long.
-/

------------------------------------------------------------
-- Amounts
------------------------------------------------------------

namespace CypherAssembly

/- A whole number or a binary number. -/
inductive Amount where
  | whole (n : Int)
  | binary (x : Binary64)
deriving DecidableEq, Repr

/- Why an amount could not be computed or written. -/
inductive AmountProblem where
  /- A whole number that no binary number comes near to. -/
  | beyondBinary
  /- A whole number with too many digits. -/
  | tooLong
deriving DecidableEq, Repr

/- The wording of a problem. -/
def AmountProblem.message : AmountProblem → String
  | beyondBinary => "int too large to convert to float"
  | tooLong =>
      "Exceeds the limit (" ++
        Decimal.ofNat Decimal.longest ++
        " digits) for integer string conversion; " ++
        "use sys.set_int_max_str_digits() " ++
        "to increase the limit"

/- A value in one of its forms, unless it is too long. -/
def Value.print
    (form : Value → String)
    (v : Value) : Except AmountProblem String :=
  if v.isTooLong then .error .tooLong else .ok (form v)

/-
  The amount that a value is.  Truth values count as one and
  zero.
-/
def Value.amount? : Value → Option Amount
  | .bool b => some (.whole (if b then 1 else 0))
  | .int n => some (.whole n)
  | .float x => some (.binary x)
  | _ => none

end CypherAssembly

------------------------------------------------------------
-- Computing
------------------------------------------------------------

namespace CypherAssembly

namespace Amount

/- An amount as a binary number. -/
def toBinary : Amount → Except AmountProblem Binary64
  | whole n =>
      match Binary64.ofInt? n with
      | some x => .ok x
      | none => .error .beyondBinary
  | binary x => .ok x

/- Two amounts combined, exactly if both of them are whole. -/
def combine
    (exact : Int → Int → Int)
    (rounded : Binary64 → Binary64 → Binary64) :
    Amount → Amount → Except AmountProblem Amount
  | whole m, whole n => .ok (whole (exact m n))
  | a, b => do
      let x ← a.toBinary
      let y ← b.toBinary
      return binary (rounded x y)

/- The difference of two amounts. -/
def minus : Amount → Amount → Except AmountProblem Amount :=
  combine Int.sub Binary64.minus

/- The product of two amounts. -/
def times : Amount → Amount → Except AmountProblem Amount :=
  combine Int.mul Binary64.times

/- Where an amount lies on the number line. -/
def place : Amount → Place
  | whole n => .point n 0
  | binary x => x.place

/- Holds when the first amount is less than the second. -/
def isBelow
    (a b : Amount) : Bool :=
  a.place.less b.place

/- The written form of an amount, unless it is too long. -/
def text : Amount → Except AmountProblem String
  | whole n => (Value.int n).print Value.plain
  | binary x => .ok x.text

end Amount

end CypherAssembly
