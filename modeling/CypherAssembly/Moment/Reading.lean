import CypherAssembly.Moment.Timestamp
import CypherAssembly.Number.Reading

/-
  Reading moments from texts.

  Key definitions include:
    * `Moment.date`
    * `Moment.time?`
    * `Moment.ofText`

  A text is a date with a time of day behind it, or else the
  number of a moment, or else a date alone, which stands for
  its midnight.
-/

------------------------------------------------------------
-- Pieces
------------------------------------------------------------

namespace CypherAssembly

namespace Moment

/- A number with exactly the given count of digits. -/
def digits?
    (width : Nat)
    (cs : List Char) : Option (Nat × List Char) :=
  let ds := cs.take width
  if ds.length = width && ds.all Char.isDigit then
    some (Nat.ofDigitChars 10 ds 0, cs.drop width)
  else
    none

/- Step over one of the given characters. -/
def skip?
    (allowed cs : List Char) : Option (List Char) :=
  match cs with
  | [] => none
  | c :: rest => if allowed.contains c then some rest else none

/- What was read, or the reason why it was not. -/
def orProblem
    {A : Type}
    (problem : MomentProblem)
    (read : Option A) : Except MomentProblem A :=
  match read with
  | some a => .ok a
  | none => .error problem

end Moment

end CypherAssembly

------------------------------------------------------------
-- Dates
------------------------------------------------------------

namespace CypherAssembly

namespace Moment

/- Year, month and day, and what follows them. -/
def date
    (cs : List Char) :
    Except MomentProblem (Moment × List Char) := do
  if (String.ofList cs).utf8ByteSize < 10 then
    throw .tooShort
  let (year, rest) ← orProblem .yearDigits (digits? 4 cs)
  let rest ← orProblem .separator (skip? ['-'] rest)
  let (month, rest) ← orProblem .monthDigits (digits? 2 rest)
  let rest ← orProblem .separator (skip? ['-'] rest)
  let (day, rest) ← orProblem .dayDigits (digits? 2 rest)
  if month = 0 || 12 < month then
    throw .monthRange
  if day = 0 || daysIn year month < day then
    throw .dayRange
  return (midnight year month day, rest)

/- A date with nothing behind it. -/
def dateAlone
    (cs : List Char) : Except MomentProblem Moment := do
  let (m, rest) ← date cs
  if rest.isEmpty then return m else throw .trailing

end Moment

end CypherAssembly

------------------------------------------------------------
-- Times of Day
------------------------------------------------------------

namespace CypherAssembly

namespace Moment

/- A fraction of a second, in millionths. -/
def fraction?
    (cs : List Char) : Option (Nat × List Char) :=
  let ds := cs.takeWhile Char.isDigit
  let six := (ds ++ List.replicate 6 '0').take 6
  if ds.isEmpty then none
  else some (Nat.ofDigitChars 10 six 0, cs.drop ds.length)

/- Seconds with their fraction, both zero when left out. -/
def seconds?
    (cs : List Char) : Option (Nat × Nat × List Char) :=
  match skip? [':'] cs with
  | none => some (0, 0, cs)
  | some rest => do
      let (s, rest) ← digits? 2 rest
      match skip? ['.', ','] rest with
      | none => some (s, 0, rest)
      | some rest =>
          let (us, rest) ← fraction? rest
          some (s, us, rest)

/- A plus, a hyphen or a proper minus sign. -/
def isNegative? : Char → Option Bool
  | '+' => some false
  | '-' => some true
  | '\u2212' => some true
  | _ => none

/- The distance from universal time, up to the end. -/
def offset? : List Char → Option (Option Int)
  | [] => some none
  | ['Z'] => some (some 0)
  | ['z'] => some (some 0)
  | sign :: rest => do
      let negative ← isNegative? sign
      let (h, rest) ← digits? 2 rest
      let (m, rest) ← digits? 2 ((skip? [':'] rest).getD rest)
      if rest.isEmpty && m < 60 then
        some (some (signed negative (h * 60 + m)))
      else
        none

/- Everything behind the date, up to the end. -/
def time?
    (date : Moment)
    (cs : List Char) : Option Moment := do
  let (hour, rest) ←
    digits? 2 (← skip? ['T', 't', ' ', '_'] cs)
  let (minute, rest) ← digits? 2 (← skip? [':'] rest)
  let (second, microsecond, rest) ← seconds? rest
  let offset ← offset? rest
  let m : Moment :=
    { date with hour, minute, second, microsecond, offset }
  if m.isInDay then some m else none

/- A date with a time of day. -/
def dateTime?
    (cs : List Char) : Option Moment := do
  let (m, rest) ← (date cs).toOption
  time? m rest

end Moment

end CypherAssembly

------------------------------------------------------------
-- Numbers
------------------------------------------------------------

namespace CypherAssembly

namespace Moment

/- The largest whole number that is read as a moment. -/
def largest : Nat :=
  9223372036854775807

/- A whole number with its digits and maybe a sign. -/
def wholeNumber?
    (cs : List Char) : Option (Bool × Nat) :=
  let (negative, ds) := Binary64.takeSign cs
  let n := Nat.ofDigitChars 10 ds 0
  if Binary64.areDigits ds && n ≤ largest then
    some (negative, n)
  else
    none

/-
  A number with a point, behind which an exponent may come.
  Digits are needed on one side of the point only.
-/
def pointNumber?
    (cs : List Char) : Option Binary64 :=
  let rest := (Binary64.takeSign cs).2
  let whole := rest.takeWhile Char.isDigit
  match rest.drop whole.length with
  | '.' :: _ => Binary64.ofText? (String.ofList cs)
  | _ => none

/-
  The moment of a number with a point.  Numbers that are
  out of range are taken for dates that are written badly.
-/
def ofPointNumber
    (cs : List Char)
    (x : Binary64) : Except MomentProblem Moment :=
  match ofDecimal x with
  | .ok m => .ok m
  | .error .yearZero => .error .yearZero
  | .error _ => dateAlone cs

/- A date that was read, unless it lies in the year zero. -/
def ofYears
    (m : Moment) : Except MomentProblem Moment :=
  if m.year = 0 then .error .yearZero else .ok m

/- The moment that a text stands for. -/
def ofText
    (s : String) : Except MomentProblem Moment := do
  let cs := s.toList
  match dateTime? cs, wholeNumber? cs, pointNumber? cs with
  | some m, _, _ => ofYears m
  | none, some (negative, n), _ =>
      ofTimestamp (signed negative n) 0
  | none, none, some x => ofPointNumber cs x
  | none, none, none => ofYears (← dateAlone cs)

end Moment

end CypherAssembly
