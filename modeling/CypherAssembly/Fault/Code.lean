/-
  Codes of faults.

  Key definitions include:
    * `Code`
    * `Code.digits`
    * `Code.name`
    * `Code.ofDigits?`

  A code has four digits.  The first one tells what a fault
  is about: arguments, the assembly of clauses, or the end
  of an assembly.
-/

------------------------------------------------------------
-- Codes
------------------------------------------------------------

namespace CypherAssembly

/- One code for each family of faults. -/
inductive Code where
  | invalidInput
  | emptyClause
  | emptyPattern
  | renderFailed
  | composite
  | finalized
deriving DecidableEq, Repr

namespace Code

/- Every code. -/
def all : List Code :=
  [invalidInput, emptyClause, emptyPattern, renderFailed,
    composite, finalized]

/- The four digits of a code. -/
def digits : Code → String
  | invalidInput => "1002"
  | emptyClause => "2001"
  | emptyPattern => "2002"
  | renderFailed => "2003"
  | composite => "3001"
  | finalized => "3002"

/- The code in words. -/
def name : Code → String
  | invalidInput => "INVALID_INPUT"
  | emptyClause => "EMPTY_CLAUSE"
  | emptyPattern => "EMPTY_PATTERN"
  | renderFailed => "RENDER_FAILED"
  | composite => "COMPOSITE"
  | finalized => "BUILDER_FINALIZED"

/- The code with the given digits. -/
def ofDigits?
    (s : String) : Option Code :=
  all.find? fun c => c.digits == s

/- A code is found again under its own digits. -/
theorem ofDigits?_digits
    (c : Code) :
    ofDigits? c.digits = some c := by
  cases c <;> rfl

end Code

end CypherAssembly
