import CypherAssembly.Record
import CypherAssembly.Settings.EnvFile

/-
  References between settings.

  Key definitions include:
    * `Reference`
    * `Reference.read?`
    * `Reference.expand`
    * `EnvFile.entries`

  A value in a file of settings can refer to other values by
  their names, between braces behind a dollar sign.  It can
  say what is meant if there is no such value.  The values
  in the file itself come before those of the environment,
  and only those above a reference are known to it.
-/

------------------------------------------------------------
-- References
------------------------------------------------------------

namespace CypherAssembly

/- The name of another value, and a text to use without it. -/
structure Reference where
  name : String
  fallback : String
deriving DecidableEq, Repr

namespace Reference

/- Up to a closing brace, and what follows the brace. -/
def untilBrace?
    (cs : List Char) : Option (List Char × List Char) :=
  let text := cs.takeWhile (· != '\x7d')
  match cs.drop text.length with
  | [] => none
  | _ :: rest => some (text, rest)

/- A reference behind its opening brace. -/
def read?
    (cs : List Char) : Option (Reference × List Char) :=
  let name := cs.takeWhile fun c => c != '\x7d' && c != ':'
  match cs.drop name.length with
  | '\x7d' :: rest =>
      some
        ({ name := String.ofList name
           fallback := "" }, rest)
  | ':' :: '-' :: rest =>
      (untilBrace? rest).map fun r =>
        ({ name := String.ofList name
           fallback := String.ofList r.1 }, r.2)
  | _ => none

/-
  A text with the references in it replaced, where `find?`
  knows the values of names.  The first argument bounds the
  number of steps.
-/
def expandWithin
    (find? : String → Option String) :
    Nat → List Char → List Char
  | 0, cs => cs
  | _, [] => []
  | n + 1, '$' :: '\x7b' :: rest =>
      match read? rest with
      | some (r, after) =>
          ((find? r.name).getD r.fallback).toList ++
            expandWithin find? n after
      | none =>
          '$' :: expandWithin find? n ('\x7b' :: rest)
  | n + 1, c :: rest => c :: expandWithin find? n rest

/- A text with the references in it replaced. -/
def expand
    (find? : String → Option String)
    (text : String) : String :=
  String.ofList
    (expandWithin find? text.length text.toList)

end Reference

end CypherAssembly

------------------------------------------------------------
-- Entries of Files
------------------------------------------------------------

namespace CypherAssembly

namespace EnvFile

/-
  What a name refers to.  A name without a value stands for
  the empty text.
-/
def meaning?
    (above : Record (Option String))
    (environment : Record String)
    (name : String) : Option String :=
  match above.get? name with
  | some value => some (value.getD "")
  | none => environment.get? name

/- Add a statement to those above it. -/
def addStatement
    (environment : Record String)
    (above : Record (Option String))
    (s : Statement) : Record (Option String) :=
  above.put s.name
    (s.value.map
      (Reference.expand (meaning? above environment)))

/- The names in a file with their values, if they have any. -/
def entries
    (environment : Record String)
    (text : String) : Record (Option String) :=
  (statements text).foldl (addStatement environment) []

end EnvFile

end CypherAssembly
