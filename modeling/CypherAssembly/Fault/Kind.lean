import CypherAssembly.Content.Kind
import CypherAssembly.Fault.Code
import CypherAssembly.Severity
import CypherAssembly.Value.Amount

/-
  Kinds of faults, and problems that are no faults yet.

  Key definitions include:
    * `Problem`
    * `Problem.message`
    * `FaultKind`
    * `FaultKind.code`
    * `FaultKind.severity`
-/

------------------------------------------------------------
-- Problems From Outside
------------------------------------------------------------

namespace CypherAssembly

/-
  What a piece of content may report that is not a fault of
  this library: a bad value or another failure of its own,
  or that it was asked for something that it cannot do.
-/
inductive Problem where
  /- A bad value, in the words of the content. -/
  | badValue (message : String)
  /- A text in the place of a floating-point number. -/
  | unreadableFloat (text : String)
  /- Any other failure, in the words of the content. -/
  | failure (message : String)
  /- Something that content of this kind does not have. -/
  | lacking (kind : ContentKind) (member : String)
  /- A value in the place of a text. -/
  | notText (kind : ValueKind)
  /- A value in the place of several values. -/
  | notIterable (kind : ValueKind)
  /- Values between which there is no order. -/
  | notOrdered (pair : Unordered)
  /- An amount that could not be computed. -/
  | notComputed (why : AmountProblem)
  /- A value in which nothing can be looked for. -/
  | notSearchable (kind : ValueKind)
  /- A value in which no name can be looked up. -/
  | notIndexable (kind : ValueKind)
  /- A value in the place of an operation. -/
  | notCallable (kind : ValueKind)
  /- A value that a field can never hold. -/
  | unfitting (field : String) (kind : ValueKind)
  /- A value in the place of a fault. -/
  | notRaisable
deriving DecidableEq, Repr

namespace Problem

/- The problem of content that cannot be rendered. -/
def notRenderable
    (kind : ContentKind) : Problem :=
  lacking kind "render"

/- The name of the kind of a problem. -/
def name : Problem → String
  | badValue _ => "ValueError"
  | unreadableFloat _ => "ValueError"
  | failure _ => "RuntimeError"
  | lacking _ _ => "AttributeError"
  | notComputed .beyondBinary => "OverflowError"
  | notComputed .tooLong => "ValueError"
  | _ => "TypeError"

/- The wording of a problem. -/
def message : Problem → String
  | badValue m => m
  | unreadableFloat s =>
      "could not convert string to float: " ++ Quoted.write s
  | failure m => m
  | lacking kind member =>
      "'" ++ kind.name ++ "' object has no attribute '" ++
        member ++ "'"
  | notText kind =>
      "expected string or bytes-like object, got '" ++
        kind.name ++ "'"
  | notIterable kind =>
      "'" ++ kind.name ++ "' object is not iterable"
  | notOrdered pair =>
      "'>' not supported between instances of '" ++
        pair.first.name ++ "' and '" ++ pair.second.name ++
        "'"
  | notComputed why => why.message
  | notSearchable kind =>
      "argument of type '" ++ kind.name ++
        "' is not iterable"
  | notIndexable .text =>
      "string indices must be integers, not 'str'"
  | notIndexable .list =>
      "list indices must be integers or slices, not str"
  | notIndexable kind =>
      "'" ++ kind.name ++ "' object is not subscriptable"
  | notCallable kind =>
      "'" ++ kind.name ++ "' object is not callable"
  | unfitting field kind =>
      field ++ " cannot be set to '" ++ kind.name ++ "'"
  | notRaisable => "exceptions must derive from BaseException"

end Problem

end CypherAssembly

------------------------------------------------------------
-- Kinds of Faults
------------------------------------------------------------

namespace CypherAssembly

/-
  The kinds of faults.  A general fault carries its own code
  and severity, every other kind has them fixed.
-/
inductive FaultKind where
  | general (code : Code) (severity : Severity)
  | emptyClause
  | emptyPattern
  | invalidArgument
  | renderFailed
  | finalized
  | composite
deriving DecidableEq, Repr

namespace FaultKind

/- The name of a kind. -/
def name : FaultKind → String
  | general _ _ => "ApplicationError"
  | emptyClause => "EmptyClauseError"
  | emptyPattern => "EmptyPatternError"
  | invalidArgument => "InvalidArgumentError"
  | renderFailed => "RenderError"
  | finalized => "BuilderFinalizedError"
  | composite => "CompositeQueryError"

/- The code of a kind. -/
def code : FaultKind → Code
  | general code _ => code
  | emptyClause => .emptyClause
  | emptyPattern => .emptyPattern
  | invalidArgument => .invalidInput
  | renderFailed => .renderFailed
  | finalized => .finalized
  | composite => .composite

/- The severity of a kind. -/
def severity : FaultKind → Severity
  | general _ severity => severity
  | emptyClause => .warning
  | emptyPattern => .warning
  | invalidArgument => .warning
  | renderFailed => .error
  | finalized => .error
  | composite => .error

end FaultKind

end CypherAssembly
