import CypherAssembly.Fault

/-
  Entries of a log.

  Key definitions include:
    * `LogValue`
    * `LogEntry`
    * `LogEntry.withTraceback`
    * `LogEntry.explain`
    * `LogEntry.toValues`

  An entry is a record of what there is to say about an
  event.  When it speaks of an error, the kind and the code
  of that error are added to it.
-/

------------------------------------------------------------
-- Entries
------------------------------------------------------------

namespace CypherAssembly

/-
  Something that is logged: a value, or a fault with its
  message in the form in which it was given.
-/
inductive LogValue where
  | value (v : Value)
  | fault (f : Fault) (wording : Value)
deriving Repr

namespace LogValue

/- The name of the kind of what is logged. -/
def kind : LogValue → String
  | value v => v.kind.name
  | fault f _ => f.kindName

/- The code of a fault that has one. -/
def code? : LogValue → Option Code
  | value _ => none
  | fault f _ => f.kind?.map FaultKind.code

/- A fault as a log shows it. -/
def shownFault
    (f : Fault)
    (wording : Value) : String :=
  f.kindName ++ "(" ++ wording.shown ++ ")"

/- What is logged, as a value. -/
def toValue : LogValue → Value
  | value v => v
  | fault f wording => .text (shownFault f wording)

end LogValue

/- What is logged about one event. -/
abbrev LogEntry :=
  Record LogValue

namespace LogEntry

/- Put a text into an entry. -/
def putText
    (name text : String)
    (e : LogEntry) : LogEntry :=
  Record.put name (.value (.text text)) e

/- Ask for a traceback, unless the entry tells about it. -/
def withTraceback
    (e : LogEntry) : LogEntry :=
  if (Record.get? "exc_info" e).isSome then e
  else Record.put "exc_info" (.value (.bool true)) e

/-
  Add the kind and the code of the error that an entry
  speaks of.  An error without a code leaves the code of the
  entry as it was.
-/
def explain
    (e : LogEntry) : LogEntry :=
  match Record.get? "error" e with
  | none => e
  | some error =>
      let e := putText "error_type" error.kind e
      match error.code? with
      | none => e
      | some code => putText "error_code" code.digits e

/- The entry with everything in it as a value. -/
def toValues
    (e : LogEntry) : Record Value :=
  List.map (fun field => (field.1, field.2.toValue)) e

end LogEntry

end CypherAssembly
