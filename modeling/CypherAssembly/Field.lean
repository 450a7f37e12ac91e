import CypherAssembly.Moment.Reading
import CypherAssembly.Number.Whole
import CypherAssembly.Severity
import CypherAssembly.Value

/-
  Fields that a caller fills in.

  Key definitions include:
    * `FieldProblem`
    * `FieldFault`
    * `Checked`
    * `Checked.and`
    * `Field.text?`
    * `Field.flag?`
    * `Field.number?`
    * `Field.texts`

  A value given for a field is checked and, where its
  meaning is clear, converted: a truth value may be written
  as a word or as zero or one, and a whole number as a text.
  All fields of one object are checked before the faults
  among them are reported, in the order of the fields.
-/

------------------------------------------------------------
-- Problems
------------------------------------------------------------

namespace CypherAssembly

/- What may be wrong with the value of a field. -/
inductive FieldProblem where
  | missing
  | notText
  | notList
  | notFlag
  | unreadableFlag
  | notNumber
  | unreadableNumber
  | longNumber
  | fractionalNumber
  | endlessNumber
  | notMoment
  | unreadableMoment (why : MomentProblem)
  | unreadableDate (why : MomentProblem)
  | notOperator
  | notSeverity (given : String)
deriving DecidableEq, Repr

namespace FieldProblem

/- A short name for a problem. -/
def name : FieldProblem → String
  | missing => "missing"
  | notText => "string_type"
  | notList => "list_type"
  | notFlag => "bool_type"
  | unreadableFlag => "bool_parsing"
  | notNumber => "int_type"
  | unreadableNumber => "int_parsing"
  | longNumber => "int_parsing_size"
  | fractionalNumber => "int_from_float"
  | endlessNumber => "finite_number"
  | notMoment => "datetime_type"
  | unreadableMoment _ => "datetime_parsing"
  | unreadableDate _ => "datetime_from_date_parsing"
  | notOperator => "literal_error"
  | notSeverity _ => "value_error"

/- The names of the severities, in the order of the letters. -/
def severityNames : Value :=
  .list
    [.text "CRITICAL", .text "DEBUG", .text "ERROR",
      .text "INFO", .text "WARNING"]

/- The wording of a problem. -/
def message : FieldProblem → String
  | missing => "Field required"
  | notText => "Input should be a valid string"
  | notList => "Input should be a valid list"
  | notFlag => "Input should be a valid boolean"
  | unreadableFlag =>
      "Input should be a valid boolean, " ++
        "unable to interpret input"
  | notNumber => "Input should be a valid integer"
  | unreadableNumber =>
      "Input should be a valid integer, " ++
        "unable to parse string as an integer"
  | longNumber =>
      "Unable to parse input string as an integer, " ++
        "exceeded maximum size"
  | fractionalNumber =>
      "Input should be a valid integer, " ++
        "got a number with a fractional part"
  | endlessNumber => "Input should be a finite number"
  | notMoment => "Input should be a valid datetime"
  | unreadableMoment why =>
      "Input should be a valid datetime, " ++ why.message
  | unreadableDate why =>
      "Input should be a valid datetime or date, " ++
        why.message
  | notOperator => "Input should be 'AND', 'OR' or 'XOR'"
  | notSeverity given =>
      "Value error, log_level must be one of " ++
        severityNames.shown ++ ", got " ++ Quoted.write given

end FieldProblem

/- A problem with a field, or with one element of its list. -/
structure FieldFault where
  field : String
  position : Option Nat := none
  problem : FieldProblem
deriving DecidableEq, Repr

end CypherAssembly

------------------------------------------------------------
-- Checked Results
------------------------------------------------------------

namespace CypherAssembly

/- What came out of checking, or everything that is wrong. -/
abbrev Checked (A : Type) :=
  Except (List FieldFault) A

namespace Checked

variable {A B : Type}

/- Both results, or the faults of both in order. -/
def and
    (x : Checked A)
    (y : Checked B) : Checked (A × B) :=
  match x, y with
  | .ok a, .ok b => .ok (a, b)
  | .ok _, .error more => .error more
  | .error faults, .ok _ => .error faults
  | .error faults, .error more => .error (faults ++ more)

/- All results, or all faults in order. -/
def all : List (Checked A) → Checked (List A)
  | [] => .ok []
  | x :: rest =>
      (x.and (all rest)).map fun r => r.1 :: r.2

end Checked

end CypherAssembly

------------------------------------------------------------
-- Reading Values
------------------------------------------------------------

namespace CypherAssembly

namespace Field

/- Texts are taken as they are. -/
def text? : Value → Except FieldProblem String
  | .text s => .ok s
  | _ => .error .notText

/- Words for false, in small letters. -/
def falseWords : List String :=
  ["0", "off", "f", "false", "n", "no"]

/- Words for true, in small letters. -/
def trueWords : List String :=
  ["1", "on", "t", "true", "y", "yes"]

/- Zero and one as truth values. -/
def wholeFlag?
    (n : Int) : Except FieldProblem Bool :=
  if n = 0 then .ok false
  else if n = 1 then .ok true
  else .error .unreadableFlag

/- Whole numbers of 64 bits, of which one is for the sign. -/
def isWord
    (n : Int) : Bool :=
  -9223372036854775808 ≤ n && n ≤ 9223372036854775807

/-
  The whole number that a floating-point number is, if it is
  smaller than all of those with more than 64 bits.
-/
def floatWord?
    (x : Binary64) : Option Int := do
  let n ← x.toInt?
  if n.natAbs ≤ 9223372036854775807 then some n else none

/-
  A truth value, zero, one, or a word for either.  Numbers
  of more than 64 bits are not even looked at.
-/
def flag? : Value → Except FieldProblem Bool
  | .bool b => .ok b
  | .int n =>
      if isWord n then wholeFlag? n else .error .notFlag
  | .float x =>
      match floatWord? x with
      | some n => wholeFlag? n
      | none => .error .notFlag
  | .text s =>
      let word := Small.ofText s
      if falseWords.contains word then .ok false
      else if trueWords.contains word then .ok true
      else .error .unreadableFlag
  | _ => .error .notFlag

/- What is wrong with a text for a number. -/
def numberTextProblem : WholeProblem → FieldProblem
  | .unreadable => .unreadableNumber
  | .tooLong => .longNumber

/- A whole number, a truth value as one or zero, or a text. -/
def number? : Value → Except FieldProblem Int
  | .int n => .ok n
  | .bool b => .ok (if b then 1 else 0)
  | .float x =>
      match x, x.toInt?, floatWord? x with
      | _, _, some n => .ok n
      | _, some _, none => .error .longNumber
      | .finite _ _ _, none, none => .error .fractionalNumber
      | _, none, none => .error .endlessNumber
  | .text s => (Whole.ofText s).mapError numberTextProblem
  | _ => .error .notNumber

/-
  What is wrong with a text for a moment.  One that lies in
  the year zero could be read, as far as that goes.
-/
def momentTextProblem : MomentProblem → FieldProblem
  | .yearZero => .unreadableMoment .yearZero
  | why => .unreadableDate why

/- A moment in its text form, or as a number. -/
def moment? : Value → Except FieldProblem Moment
  | .text s => (Moment.ofText s).mapError momentTextProblem
  | .int n =>
      if (Binary64.ofInt? n).isNone then .error .notMoment
      else (Moment.ofTimestamp n 0).mapError .unreadableMoment
  | .float x =>
      (Moment.ofBinary x).mapError .unreadableMoment
  | _ => .error .notMoment

/- One of the operators that join conditions. -/
def operator? : Value → Except FieldProblem String
  | .text s =>
      if ["AND", "OR", "XOR"].contains s then .ok s
      else .error .notOperator
  | _ => .error .notOperator

/- The name of a severity, in letters of any case. -/
def severity?
    (v : Value) : Except FieldProblem Severity := do
  let s ← text? v
  match Severity.ofAnyCase? s with
  | some l => .ok l
  | none => .error (.notSeverity s)

/- Nothing, or what the reader makes of a value. -/
def orNothing
    {A : Type}
    (read : Value → Except FieldProblem A) :
    Value → Except FieldProblem (Option A)
  | .null => .ok none
  | v => (read v).map some

end Field

end CypherAssembly

------------------------------------------------------------
-- Reading Fields
------------------------------------------------------------

namespace CypherAssembly

namespace Field

variable {A : Type}

/- A problem becomes a fault of the field. -/
def inField
    (field : String)
    (result : Except FieldProblem A) : Checked A :=
  result.mapError fun problem => [{ field, problem }]

/- A field that has to be given. -/
def required
    (field : String)
    (read : Value → Except FieldProblem A)
    (fields : Record Value) : Checked A :=
  match fields.get? field with
  | none => .error [{ field, problem := .missing }]
  | some v => inField field (read v)

/- A field with a value of its own when it is not given. -/
def withDefault
    (field : String)
    (default : A)
    (read : Value → Except FieldProblem A)
    (fields : Record Value) : Checked A :=
  match fields.get? field with
  | none => .ok default
  | some v => inField field (read v)

/- A list of texts, empty when it is not given. -/
def texts
    (field : String)
    (fields : Record Value) : Checked (List String) :=
  match fields.get? field with
  | none => .ok []
  | some (.list items) =>
      Checked.all (items.mapIdx fun i v =>
        (text? v).mapError fun problem =>
          [{ field, position := some i, problem }])
  | some _ => .error [{ field, problem := .notList }]

end Field

end CypherAssembly
