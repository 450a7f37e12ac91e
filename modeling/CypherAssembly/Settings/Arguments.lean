import CypherAssembly.Record
import CypherAssembly.Settings.Problem

/-
  Settings among the arguments of a program.

  Key definitions include:
    * `ArgumentList.ofValue`
    * `ArgumentList.read`

  An argument with two hyphens in front names a setting.  Its
  value stands behind an equals sign or is the next argument.
-/

------------------------------------------------------------
-- Arguments
------------------------------------------------------------

namespace CypherAssembly

namespace ArgumentList

/- Holds for what could not be the value of a setting. -/
def isOption
    (s : String) : Bool :=
  s.startsWith "-" && s != "-" && !s.contains ' '

/- The name and the value in a single argument. -/
def joint?
    (s : String) : Option (String × String) :=
  match s.splitOn "=" with
  | name :: first :: rest =>
      some (name, "=".intercalate (first :: rest))
  | _ => none

/- The value of an argument; one text stands for null. -/
def meaning
    (s : String) : Value :=
  if s == "null" then .null else .text s

/- What arguments name, each with its value. -/
def pairs : List String → List (String × String)
  | [] => []
  | [s] => (joint? s).toList
  | s :: value :: rest =>
      match joint? s with
      | some pair => pair :: pairs (value :: rest)
      | none =>
          if isOption value then pairs (value :: rest)
          else (s, value) :: pairs rest

/- The settings that arguments name, the last value each. -/
def read
    (arguments : List String) : Record Value :=
  Record.ofPairs ((pairs arguments).filterMap fun pair =>
    match pair.1.toList with
    | '-' :: '-' :: name =>
        some (String.ofList name, meaning pair.2)
    | _ => none)

/- Arguments in a list, which holds nothing but texts. -/
def ofItems
    (items : List Value) :
    Except SourceProblem (List String) :=
  items.mapM fun
    | .text s => .ok s
    | v => .error (.unfitting "argument" v.kind)

/-
  The settings in a value that should be a list.  Nothing,
  false and zero stand for no arguments, and true for those
  of the running program, which has none.
-/
def ofValue : Value → Except SourceProblem (Record Value)
  | .null => .ok []
  | .bool _ => .ok []
  | .int 0 => .ok []
  | .list items => (ofItems items).map read
  | .float x =>
      if x.isZero then .ok []
      else .error (.noArguments .float)
  | v => .error (.noArguments v.kind)

end ArgumentList

end CypherAssembly
