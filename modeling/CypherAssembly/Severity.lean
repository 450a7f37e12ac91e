import CypherAssembly.Text.Capital

/-
  How serious an event is.

  Key definitions include:
    * `Severity`
    * `Severity.word`
    * `Severity.name`
    * `Severity.rank`
    * `Severity.ofWord?`
    * `Severity.ofAnyCase?`
-/

------------------------------------------------------------
-- Severities
------------------------------------------------------------

namespace CypherAssembly

/- Five degrees, from the least to the most serious. -/
inductive Severity where
  | debug
  | info
  | warning
  | error
  | critical
deriving DecidableEq, Repr

namespace Severity

/- Every severity, the least serious first. -/
def all : List Severity :=
  [debug, info, warning, error, critical]

/- The severity in small letters. -/
def word : Severity → String
  | debug => "debug"
  | info => "info"
  | warning => "warning"
  | error => "error"
  | critical => "critical"

/- The severity in capital letters. -/
def name : Severity → String
  | debug => "DEBUG"
  | info => "INFO"
  | warning => "WARNING"
  | error => "ERROR"
  | critical => "CRITICAL"

/- The place of the severity on a scale up to fifty. -/
def rank : Severity → Nat
  | debug => 10
  | info => 20
  | warning => 30
  | error => 40
  | critical => 50

/- The severity with the given small letters. -/
def ofWord?
    (s : String) : Option Severity :=
  all.find? fun l => l.word == s

/- The severity with the given name, in letters of any case. -/
def ofAnyCase?
    (s : String) : Option Severity :=
  all.find? fun l => l.name == Capital.ofText s

/- A severity is found again under its own name. -/
theorem ofAnyCase?_name
    (l : Severity) :
    ofAnyCase? l.name = some l := by
  cases l <;> rfl

end Severity

end CypherAssembly
