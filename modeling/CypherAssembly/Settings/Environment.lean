import CypherAssembly.Record
import CypherAssembly.Settings.Problem

/-
  Environments that settings are taken from.

  Key definitions include:
    * `Environment.entry`
    * `Environment.ofValues`

  Names and values in an environment are texts that go on
  up to the first zero character, so that character cannot
  be in them.  A name has at least one character, and it
  goes on up to the first equals sign.
-/

------------------------------------------------------------
-- Environments
------------------------------------------------------------

namespace CypherAssembly

namespace Environment

/- Holds for texts that a zero character would cut off. -/
def isCut
    (s : String) : Bool :=
  s.toList.contains '\x00'

/- A name with its value, if an environment can hold them. -/
def entry
    (name : String)
    (v : Value) : Except SourceProblem (String × String) :=
  match v with
  | .text value =>
      if isCut name || isCut value then .error .cutText
      else if name.toList.contains '=' then
        .error .splitName
      else if name.isEmpty then .error .emptyName
      else .ok (name, value)
  | v => .error (.unfitting name v.kind)

/- The environment that some values make up. -/
def ofValues
    (values : Record Value) :
    Except SourceProblem (List (String × String)) :=
  values.mapM fun given => entry given.1 given.2

end Environment

end CypherAssembly
