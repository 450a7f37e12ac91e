import CypherAssembly.Record
import CypherAssembly.Settings.Problem
import CypherAssembly.Text.Capital

/-
  Rules for reading settings.

  Key definitions include:
    * `SourceRules`
    * `SourceRules.key`
    * `SourceRules.find?`
    * `SourceRules.ofFields`

  In the environment and in a file, the name of a setting
  stands behind a start that all settings of a program have
  in common.  Names are compared without regard to case
  unless a caller wants it otherwise, and of several entries
  for one name, the last one counts.
-/

------------------------------------------------------------
-- Rules
------------------------------------------------------------

namespace CypherAssembly

/-
  What names start with, whether their case matters, whether
  empty values are passed over, and which value stands for
  null.
-/
structure SourceRules where
  start : String := "CYPHER_BUILDER_"
  isExact : Bool := false
  skipsEmpty : Bool := false
  null : Value := .null
deriving Repr

/- Names with their values, some of which are left out. -/
abbrev Entries :=
  List (String × Option String)

namespace SourceRules

/- The form of a name in which it is compared. -/
def key
    (r : SourceRules)
    (name : String) : String :=
  if r.isExact then name else Small.ofText name

/- Whether an entry counts at all. -/
def keeps
    (r : SourceRules)
    (entry : String × Option String) : Bool :=
  !(r.skipsEmpty && entry.2 == some "")

/- The value that a text stands for. -/
def meaning
    (r : SourceRules)
    (text : String) : Value :=
  if r.null.isText text then .null else .text text

/- The value of a setting, if an entry has one for it. -/
def find?
    (r : SourceRules)
    (name : String)
    (entries : Entries) : Option Value :=
  let long := r.key (r.start ++ name)
  let last := (entries.filter r.keeps).reverse.find?
    fun entry => r.key entry.1 == long
  (last.bind (·.2)).map r.meaning

end SourceRules

end CypherAssembly

------------------------------------------------------------
-- Given Rules
------------------------------------------------------------

namespace CypherAssembly

namespace SourceRules

/- A field that may be missing or null. -/
def field?
    (name : String)
    (fields : Record Value) : Option Value :=
  (fields.get? name).filter fun v => v.kind != .null

/- Whether a field is there and counts as true. -/
def flag
    (name : String)
    (fields : Record Value) : Bool :=
  ((field? name fields).map Value.isTrue).getD false

/- Holds for values from which one can be taken away. -/
def isCount : Value → Bool
  | .int _ => true
  | .bool _ => true
  | .float _ => true
  | v => !v.isTrue

/- Holds for values that hold nothing but texts. -/
def holdsTexts
    (v : Value) : Bool :=
  match v.elements? with
  | some items => items.all fun item => item.kind == .text
  | none => false

/- Check that a field, if it is there, has a property. -/
def require
    (name : String)
    (isGood : Value → Bool)
    (fields : Record Value) : Except SourceProblem Unit :=
  match (field? name fields).filter fun v => !isGood v with
  | some v => .error (.unfitting name v.kind)
  | none => .ok ()

/- What names start with, if a caller says so. -/
def startOf
    (fields : Record Value) :
    Except SourceProblem String :=
  match field? "_env_prefix" fields with
  | none => .ok (SourceRules.start {})
  | some (.text start) => .ok start
  | some v =>
      if v.elements?.isSome then
        .error (.unnameable "log_level")
      else
        .error (.unfitting "_env_prefix" v.kind)

/- The rules among the fields that a caller gives. -/
def ofFields
    (fields : Record Value) :
    Except SourceProblem SourceRules := do
  require "_env_nested_max_split" isCount fields
  let start ← startOf fields
  require "_secrets_dir" holdsTexts fields
  return {
    start
    isExact := flag "_case_sensitive" fields
    skipsEmpty := flag "_env_ignore_empty" fields
    null := (field? "_env_parse_none_str" fields).getD .null }

end SourceRules

end CypherAssembly
