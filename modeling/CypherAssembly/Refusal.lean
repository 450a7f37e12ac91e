import CypherAssembly.Fault
import CypherAssembly.Field
import CypherAssembly.Settings.Problem

/-
  Refusals.

  Key definitions include:
    * `Refusal`
    * `Refusal.ofProblem`
    * `Refusal.message?`
    * `Value.asName`

  Most faults are recorded and let an assembly go on.  A
  refusal is different: the request is not carried out, and
  the caller learns of it at once.
-/

------------------------------------------------------------
-- Refusals
------------------------------------------------------------

namespace CypherAssembly

/- Why a request was not carried out. -/
inductive Refusal where
  /- A fault that is not for recording. -/
  | fault (f : Fault)
  /- Fields that could not be read. -/
  | fields (faults : List FieldFault)
  /- A source of settings that cannot be used. -/
  | source (problem : SourceProblem)
  /- An argument that was given twice. -/
  | clash (argument : String)
  /- An argument that is needed and was not given. -/
  | missing (argument : String)
  /- An argument that there is no use for. -/
  | surplus (argument : String)
  /- A value that is not among the members of a family. -/
  | notMember (family : String) (given : Value)
  /- A field that content of this kind does not have. -/
  | noField (kind : ContentKind) (field : String)
  /- A field that nobody can set. -/
  | fixedField (kind : ContentKind) (field : String)
  /- A value that cannot be joined to a text. -/
  | notJoined (kind : ValueKind)
  /- An operation that content of this kind does not have. -/
  | noOperation (kind : ContentKind) (operation : String)
  /- A way of logging that there is not. -/
  | noMethod (name : String)
  /- A name under which nothing was put. -/
  | noSuchName (name : Value)
  /- A value that cannot be a name. -/
  | noName (kind : ValueKind)
  /- A count of faults where there is no bundle. -/
  | noBundle
deriving Repr

namespace Refusal

/- A problem from outside that breaks a request off. -/
def ofProblem
    (problem : Problem) : Refusal :=
  .fault (.outside problem)

/- The wording of a refusal that has one. -/
def message? : Refusal → Option String
  | fault f => some f.message
  | source problem => some problem.message
  | notMember family given =>
      some (given.shown ++ " is not a valid " ++ family)
  | noField kind field =>
      some ("\x22" ++ kind.name ++
        "\x22 object has no field \x22" ++ field ++ "\x22")
  | noSuchName name => some name.shown
  | _ => none

end Refusal

/- A value as a name, if it can be one. -/
def Value.asName
    (v : Value) : Except Refusal Value :=
  if v.isName then .ok v else .error (.noName v.kind)

end CypherAssembly
