import CypherAssembly.Text.Decimal

/-
  Moments in time.

  Key definitions include:
    * `Moment`
    * `Moment.text`
    * `MomentProblem`

  A moment is written in one standard form: a T between date
  and time of day, seconds always, a fraction of six digits
  unless it is zero, and the distance from universal time in
  hours and minutes when there is one.  The years count from
  one: a year zero can be read, but no moment lies in it.
-/

------------------------------------------------------------
-- Moments
------------------------------------------------------------

namespace CypherAssembly

/- A date, a time of day, and the distance in minutes. -/
structure Moment where
  year : Nat
  month : Nat
  day : Nat
  hour : Nat
  minute : Nat
  second : Nat
  microsecond : Nat
  offset : Option Int
deriving DecidableEq, Repr

namespace Moment

/- Years with a twenty-ninth of February. -/
def isLeap
    (year : Nat) : Bool :=
  year % 4 == 0 && (year % 100 != 0 || year % 400 == 0)

/- The number of days in a month. -/
def daysIn
    (year month : Nat) : Nat :=
  if month = 2 then
    if isLeap year then 29 else 28
  else if [4, 6, 9, 11].contains month then 30
  else 31

/- Whether the time of day lies in its range. -/
def isInDay
    (m : Moment) : Bool :=
  m.hour < 24 && m.minute < 60 && m.second < 60 &&
    (m.offset.getD 0).natAbs < 24 * 60

end Moment

end CypherAssembly

------------------------------------------------------------
-- Writing
------------------------------------------------------------

namespace CypherAssembly

namespace Moment

/- A number filled up with zeros in front. -/
def padded
    (width n : Nat) : String :=
  let ds := Nat.toDigits 10 n
  String.ofList (List.replicate (width - ds.length) '0' ++ ds)

/- The distance from universal time, with its sign. -/
def offsetText
    (minutes : Int) : String :=
  let n := minutes.natAbs
  (if minutes < 0 then "-" else "+") ++
    padded 2 (n / 60) ++ ":" ++ padded 2 (n % 60)

/- The moment in its standard form. -/
def text
    (m : Moment) : String :=
  padded 4 m.year ++ "-" ++ padded 2 m.month ++ "-" ++
    padded 2 m.day ++ "T" ++ padded 2 m.hour ++ ":" ++
    padded 2 m.minute ++ ":" ++ padded 2 m.second ++
    (if m.microsecond = 0 then ""
      else "." ++ padded 6 m.microsecond) ++
    (m.offset.map offsetText).getD ""

end Moment

end CypherAssembly

------------------------------------------------------------
-- Problems
------------------------------------------------------------

namespace CypherAssembly

/- Why no moment could be read. -/
inductive MomentProblem where
  | tooShort
  | yearDigits
  | separator
  | monthDigits
  | dayDigits
  | monthRange
  | dayRange
  | trailing
  | tooEarly
  | tooLate
  | noNumber
  | yearZero
deriving DecidableEq, Repr

/- The wording of a problem. -/
def MomentProblem.message : MomentProblem → String
  | tooShort => "input is too short"
  | yearDigits => "invalid character in year"
  | separator => "invalid date separator, expected \x60-\x60"
  | monthDigits => "invalid character in month"
  | dayDigits => "invalid character in day"
  | monthRange =>
      "month value is outside expected range of 1-12"
  | dayRange => "day value is outside expected range"
  | trailing =>
      "unexpected extra characters at the end of the input"
  | tooEarly =>
      "dates before 0000 are not supported as unix timestamps"
  | tooLate =>
      "dates after 9999 are not supported as unix timestamps"
  | noNumber => "NaN values not permitted"
  | yearZero => "year 0 is out of range"

end CypherAssembly
