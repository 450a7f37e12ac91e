import CypherAssembly.Moment
import CypherAssembly.Number.Arithmetic

/-
  Moments that are given as numbers.

  Key definitions include:
    * `Moment.ofDay`
    * `Moment.ofSeconds`
    * `Moment.ofThousandths`
    * `Moment.ofTimestamp`
    * `Moment.ofBinary`
    * `Moment.ofDecimal`

  A number counts the seconds since the start of the year
  1970, or their thousandths if it is large.  Numbers before
  the year one or behind the year 9999 are refused.
-/

------------------------------------------------------------
-- Days
------------------------------------------------------------

namespace CypherAssembly

namespace Moment

/- Midnight at the start of a date. -/
def midnight
    (year month day : Nat) : Moment :=
  { year, month, day
    hour := 0
    minute := 0
    second := 0
    microsecond := 0
    offset := none }

/-
  The date of a day, counted from the first of March in the
  year zero.  A year that starts with March has its leap day
  at the end, so its days do not depend on it.  In 146097
  days, which are 400 years, there are 97 leap days: one in
  1461 days, but none at the end of 36524 days.
-/
def ofDay
    (n : Nat) : Moment :=
  let cycle := n / 146097
  let inCycle := n % 146097
  let year :=
    (inCycle + inCycle / 36524 - inCycle / 1460 -
      inCycle / 146096) / 365
  let inYear :=
    inCycle - (365 * year + year / 4 - year / 100)
  let month := (5 * inYear + 2) / 153
  let day := inYear - (153 * month + 2) / 5 + 1
  let fromMarch := cycle * 400 + year
  if month < 10 then midnight fromMarch (month + 3) day
  else midnight (fromMarch + 1) (month - 9) day

end Moment

end CypherAssembly

------------------------------------------------------------
-- Seconds
------------------------------------------------------------

namespace CypherAssembly

namespace Moment

/- The days from the first of March in the year zero. -/
def daysBeforeStart : Nat :=
  719468

/- The first second of the year zero. -/
def startOfYearZero : Int :=
  -62167219200

/- The first second of the year one. -/
def startOfYearOne : Int :=
  -62135596800

/- The last second of the year 9999. -/
def endOfYears : Int :=
  253402300799

/- A number of seconds, and of millionths of them. -/
def ofSeconds
    (seconds : Int)
    (millionths : Nat) : Except MomentProblem Moment :=
  let seconds := seconds + (millionths / 1000000 : Nat)
  if seconds < startOfYearZero then .error .tooEarly
  else if seconds < startOfYearOne then .error .yearZero
  else if endOfYears < seconds then .error .tooLate
  else
    let date :=
      ofDay (Int.fdiv seconds 86400 + daysBeforeStart).toNat
    let inDay := (Int.fmod seconds 86400).toNat
    .ok
      { date with
        hour := inDay / 3600
        minute := inDay / 60 % 60
        second := inDay % 60
        microsecond := millionths % 1000000
        offset := some 0 }

/- The largest number that counts whole seconds. -/
def watershed : Nat :=
  20000000000

/- A number of thousandths, and of millionths of seconds. -/
def ofThousandths
    (n : Int)
    (millionths : Nat) : Except MomentProblem Moment :=
  ofSeconds (Int.fdiv n 1000)
    ((Int.fmod n 1000).toNat * 1000 + millionths)

/- A number of seconds or of thousandths of seconds. -/
def ofTimestamp
    (n : Int)
    (millionths : Nat) : Except MomentProblem Moment :=
  if n.natAbs ≤ watershed then ofSeconds n millionths
  else ofThousandths n millionths

end Moment

end CypherAssembly

------------------------------------------------------------
-- Fractions of Seconds
------------------------------------------------------------

namespace CypherAssembly

namespace Moment

/-
  The fraction `n / d` in parts, of which there are `parts`
  in a whole.  The product is a floating-point number, and
  of that number the nearest whole one is taken, a half
  being rounded up.
-/
def partsOf
    (parts n d : Nat) : Nat :=
  let (s, e) := nearestBinary (n * parts) d
  let half := twoTo (-e).toNat
  (2 * s * twoTo e.toNat + half) / (2 * half)

/-
  A floating-point number.  Its fraction counts forward in
  time even if the number is negative.
-/
def ofBinary : Binary64 → Except MomentProblem Moment
  | .nan => .error .noNumber
  | .infinite negative =>
      .error (if negative then .tooEarly else .tooLate)
  | .finite negative s e =>
      let n := s * twoTo e.toNat
      let d := twoTo (-e).toNat
      ofTimestamp (Int.fdiv (signed negative n) d)
        (partsOf 1000000 (n % d) d)

/-
  A number in decimal that is no whole number.  Its fraction
  counts forward from the whole number below it, and is a
  floating-point number of its own.  The number itself
  decides whether it counts seconds or thousandths, and not
  the whole number below it.
-/
def ofDecimal : Binary64 → Except MomentProblem Moment
  | .finite negative s e =>
      let n := s * twoTo e.toNat
      let d := twoTo (-e).toNat
      let whole := Int.fdiv (signed negative n) d
      let (s, e) := nearestBinary
        (Int.fmod (signed negative n) d).toNat d
      let millionths := fun parts =>
        partsOf parts (s * twoTo e.toNat) (twoTo (-e).toNat)
      if n ≤ watershed * d then
        ofSeconds whole (millionths 1000000)
      else
        ofThousandths whole (millionths 1000)
  | x => ofBinary x

end Moment

end CypherAssembly
