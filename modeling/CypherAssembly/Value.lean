import CypherAssembly.Number.Layout
import CypherAssembly.Record
import CypherAssembly.Text.Quoted

/-
  Values that a caller puts into a query.

  Key definitions include:
    * `ValueKind`
    * `Value`
    * `Value.kind`
    * `Value.isText`
    * `Value.isTrue`
    * `Value.elements?`
    * `Value.shown`
    * `Value.plain`
    * `Value.literal`
    * `Value.isTooLong`

  Most maps have texts as names.  A map in which a value of
  another kind is a name is called a table.

  A value has three written forms.  `shown` tells values of
  different kinds apart and is used inside collections and
  in messages.  `plain` differs from it on texts alone,
  which stand for themselves.  `literal` is the form of a
  property in a query.  No form can be had of a value with a
  whole number in it that is too long to be written.
-/

------------------------------------------------------------
-- Values
------------------------------------------------------------

namespace CypherAssembly

/- The kinds of values. -/
inductive ValueKind where
  | null
  | bool
  | int
  | float
  | text
  | list
  | map
deriving DecidableEq, Repr

/- The name of a kind. -/
def ValueKind.name : ValueKind → String
  | null => "NoneType"
  | bool => "bool"
  | int => "int"
  | float => "float"
  | text => "str"
  | list => "list"
  | map => "dict"

/- Values of any kind, nested to any depth. -/
inductive Value where
  | null
  | bool (b : Bool)
  | int (n : Int)
  | float (x : Binary64)
  | text (s : String)
  | list (items : List Value)
  | map (entries : List (String × Value))
  | table (entries : List (Value × Value))
deriving Repr

namespace Value

/- The kind of a value. -/
def kind : Value → ValueKind
  | null => .null
  | bool _ => .bool
  | int _ => .int
  | float _ => .float
  | text _ => .text
  | list _ => .list
  | map _ => .map
  | table _ => .map

/- Holds for one text alone. -/
def isText
    (s : String) : Value → Bool
  | text t => t == s
  | _ => false

/- A value that is no text. -/
def unlessText? : Value → Option Value
  | text _ => none
  | v => some v

/-
  Whether a value counts as true.  Nothing, zero and
  whatever is empty count as false.
-/
def isTrue : Value → Bool
  | null => false
  | bool b => b
  | int n => n != 0
  | float x => !x.isZero
  | text s => s != ""
  | list items => !items.isEmpty
  | map entries => !entries.isEmpty
  | table entries => !entries.isEmpty

/- The value itself, or another one if it counts as false. -/
def orElse
    (v default : Value) : Value :=
  if v.isTrue then v else default

/-
  What a value is made of: the items of a list, the
  characters of a text, the names in a map.  Values of other
  kinds cannot be gone through.
-/
def elements? : Value → Option (List Value)
  | list items => some items
  | text s => some (s.toList.map fun c => text c.toString)
  | map entries => some (entries.map fun e => text e.1)
  | table entries => some (entries.map fun e => e.1)
  | _ => none

/- The entries of a table whose names are texts. -/
def namedEntries
    (entries : List (Value × Value)) : Record Value :=
  entries.filterMap fun entry =>
    match entry.1 with
    | text s => some (s, entry.2)
    | _ => none

/- Whether something can be put under a value. -/
def isName : Value → Bool
  | list _ => false
  | map _ => false
  | table _ => false
  | _ => true

/- A list of texts. -/
def texts
    (names : List String) : Value :=
  list (names.map text)

/- A text, or nothing. -/
def ofText? : Option String → Value
  | none => null
  | some s => text s

end Value

end CypherAssembly

------------------------------------------------------------
-- Shown Form
------------------------------------------------------------

namespace CypherAssembly

/- A truth value with a capital letter. -/
def flagText
    (b : Bool) : String :=
  if b then "True" else "False"

mutual

/- A value as it is shown inside a collection. -/
def Value.shown : Value → String
  | .null => "None"
  | .bool b => flagText b
  | .int n => Decimal.ofInt n
  | .float x => x.text
  | .text s => Quoted.write s
  | .list items =>
      "[" ++ ", ".intercalate (Value.shownItems items) ++ "]"
  | .map entries =>
      "\x7b" ++
        ", ".intercalate (Value.shownEntries entries) ++
        "\x7d"
  | .table entries =>
      "\x7b" ++
        ", ".intercalate (Value.shownPairs entries) ++
        "\x7d"

/- The shown forms of a list of values. -/
def Value.shownItems : List Value → List String
  | [] => []
  | v :: rest => v.shown :: Value.shownItems rest

/- The shown forms of named values, each after its name. -/
def Value.shownEntries :
    List (String × Value) → List String
  | [] => []
  | (name, v) :: rest =>
      (Quoted.write name ++ ": " ++ v.shown) ::
        Value.shownEntries rest

/- The shown forms of values, each after that of its name. -/
def Value.shownPairs :
    List (Value × Value) → List String
  | [] => []
  | (name, v) :: rest =>
      (name.shown ++ ": " ++ v.shown) ::
        Value.shownPairs rest

end

end CypherAssembly

------------------------------------------------------------
-- Plain and Literal Forms
------------------------------------------------------------

namespace CypherAssembly

namespace Value

/- A value on its own: texts stand for themselves. -/
def plain : Value → String
  | text s => s
  | v => v.shown

/- Holds for texts that name a query parameter. -/
def isParameter
    (s : String) : Bool :=
  s.toList.head? == some '$'

/-
  A value as a property in a query.  Parameters are named
  as they are, and other texts stand between apostrophes
  with nothing in them changed.
-/
def literal : Value → String
  | null => "null"
  | bool b => if b then "true" else "false"
  | text s => if isParameter s then s else "'" ++ s ++ "'"
  | v => v.shown

end Value

end CypherAssembly

------------------------------------------------------------
-- Values Too Long to Write
------------------------------------------------------------

namespace CypherAssembly

mutual

/- Holds if there is a whole number in it that is too long. -/
def Value.isTooLong : Value → Bool
  | .int n => Decimal.isTooLong n
  | .list items => Value.haveTooLong items
  | .map entries => Value.entriesHaveTooLong entries
  | .table entries => Value.pairsHaveTooLong entries
  | _ => false

/- Holds if one of several values is too long. -/
def Value.haveTooLong : List Value → Bool
  | [] => false
  | v :: rest => v.isTooLong || Value.haveTooLong rest

/- Holds if one of several values with names is too long. -/
def Value.entriesHaveTooLong :
    List (String × Value) → Bool
  | [] => false
  | (_, v) :: rest =>
      v.isTooLong || Value.entriesHaveTooLong rest

/- The same for names that need not be texts. -/
def Value.pairsHaveTooLong : List (Value × Value) → Bool
  | [] => false
  | (name, v) :: rest =>
      name.isTooLong || v.isTooLong ||
        Value.pairsHaveTooLong rest

end

end CypherAssembly
