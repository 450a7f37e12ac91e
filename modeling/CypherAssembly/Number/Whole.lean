import CypherAssembly.Number.Binary64
import CypherAssembly.Text.Blank
import CypherAssembly.Text.Decimal

/-
  Whole numbers in texts.

  Key definitions include:
    * `WholeProblem`
    * `Whole.strict?`
    * `Whole.tidy?`
    * `Whole.ofText`

  The strict text of a number is its digits, perhaps with a
  minus sign, and without zeros in front.  Other texts are
  tidied up: white space around a number, a plus sign, zeros
  in front, a fraction of zeros and single underscores are
  taken out, and the rest has to be strict.
-/

------------------------------------------------------------
-- Strict Texts
------------------------------------------------------------

namespace CypherAssembly

/- Why no whole number could be read. -/
inductive WholeProblem where
  | unreadable
  | tooLong
deriving DecidableEq, Repr

namespace Whole

/- A minus sign, if there is one, and what follows it. -/
def takeMinus : List Char → Bool × List Char
  | '-' :: rest => (true, rest)
  | cs => (false, cs)

/- Digits of a number without zeros in front. -/
def areStrict : List Char → Bool
  | [] => false
  | ['0'] => true
  | c :: rest => c != '0' && (c :: rest).all Char.isDigit

/- A number that is written strictly. -/
def strict?
    (cs : List Char) : Option Int :=
  let (negative, ds) := takeMinus cs
  if areStrict ds then
    some (signed negative (Nat.ofDigitChars 10 ds 0))
  else
    none

/-
  Holds when a text starts with a number of too many digits,
  whatever comes behind it.
-/
def startsTooLong
    (cs : List Char) : Bool :=
  let ds := (takeMinus cs).2.takeWhile Char.isDigit
  areStrict ds && Decimal.longest < ds.length

end Whole

end CypherAssembly

------------------------------------------------------------
-- Tidying Up
------------------------------------------------------------

namespace CypherAssembly

namespace Whole

/-
  What is left behind a zero.  Further zeros are dropped,
  and underscores among them.  The last one stays if nothing
  or a point follows.  The first argument is the character
  that was passed last.
-/
def behindZeros?
    (passed : Char) : List Char → Option (List Char)
  | [] => some [passed]
  | c :: rest =>
      if c == '0' || c == '_' then behindZeros? c rest
      else if c == '.' then some (passed :: c :: rest)
      else if c.isDigit || c == '-' then some (c :: rest)
      else none

/- A text that starts with a digit, without zeros in front. -/
def dropZeros? : List Char → Option (List Char)
  | [] => none
  | c :: rest =>
      if c == '0' then behindZeros? c rest
      else if c.isDigit then some (c :: rest)
      else none

/- Zeros in front of a number, behind its sign or not. -/
def dropSignedZeros? : List Char → Option (List Char)
  | '+' :: rest => dropZeros? rest
  | '-' :: rest => (dropZeros? rest).map ('-' :: ·)
  | cs => dropZeros? cs

/- A point and zeros at the end do not change a number. -/
def dropZeroFraction
    (cs : List Char) : List Char :=
  let whole := cs.takeWhile (· != '.')
  match cs.drop whole.length with
  | '.' :: zeros =>
      if !zeros.isEmpty && zeros.all (· == '0') then whole
      else cs
  | _ => cs

/- Underscores that stand alone between other characters. -/
def dropUnderscores
    (cs : List Char) : List Char :=
  let isMisplaced :=
    cs.head? == some '_' || cs.getLast? == some '_' ||
      (cs.zip (cs.drop 1)).contains ('_', '_')
  if isMisplaced then cs else cs.filter (· != '_')

/- A text without the things that do not matter. -/
def tidy?
    (cs : List Char) : Option (List Char) :=
  (dropSignedZeros? (trimPadding cs)).map fun cs =>
    dropUnderscores (dropZeroFraction cs)

end Whole

end CypherAssembly

------------------------------------------------------------
-- Texts
------------------------------------------------------------

namespace CypherAssembly

namespace Whole

/- A number that is written strictly and is not too long. -/
def strict
    (cs : List Char) : Except WholeProblem Int :=
  match strict? cs with
  | some n =>
      if startsTooLong cs then .error .unreadable else .ok n
  | none => .error .unreadable

/-
  The number that a text stands for.  That a number has too
  many digits is noticed at once, or not before the text was
  tidied up, when nothing is made of it any more.
-/
def ofText
    (s : String) : Except WholeProblem Int :=
  let cs := s.toList
  if startsTooLong cs then .error .tooLong
  else
    match strict? cs, tidy? cs with
    | some n, _ => .ok n
    | none, some tidied => strict tidied
    | none, none => .error .unreadable

end Whole

end CypherAssembly
