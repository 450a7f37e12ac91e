import CypherAssembly.Fault

/-
  Reserves of content.

  Key definitions include:
    * `Value.mentions`
    * `Value.lookUp`
    * `Reserve`
    * `Reserve.find?`
    * `Reserve.settingProblem?`

  Content with checked fields that is asked for something it
  does not have looks into its reserve.  Nothing is in there
  at first, and as long as that is so, what is not had is
  not found.  But a caller can put values of any kind there,
  and then looking into them may be a problem of its own.
-/

------------------------------------------------------------
-- Looking Into Values
------------------------------------------------------------

namespace CypherAssembly

namespace Value

/- Holds for characters that occur in a row in others. -/
def occursIn
    (part : List Char) : List Char → Bool
  | [] => part.isEmpty
  | c :: rest =>
      part.isPrefixOf (c :: rest) || occursIn part rest

/- Whether a name is in a value, be it as a part of a text. -/
def mentions
    (name : String) : Value → Except Problem Bool
  | map entries => .ok (Record.get? name entries).isSome
  | table entries =>
      .ok (Record.get? name (namedEntries entries)).isSome
  | list items => .ok (items.any (isText name))
  | text s => .ok (occursIn name.toList s.toList)
  | v => .error (.notSearchable v.kind)

/- The value of a name in a value that should be a map. -/
def lookUp
    (name : String) : Value → Except Problem (Option Value)
  | map entries => .ok (Record.get? name entries)
  | table entries =>
      .ok (Record.get? name (namedEntries entries))
  | v => .error (.notIndexable v.kind)

end Value

end CypherAssembly

------------------------------------------------------------
-- Reserves
------------------------------------------------------------

namespace CypherAssembly

/-
  Names that were `declared` stand for `hidden` values, all
  others for `extra` values.  A reserve can also lose track
  of the fields that were set.  How a field is set is found
  in a directory, or else by a rule, and then the directory
  has `learned` it.  `setters` and `rule` are values that
  were put in the places of the directory and of the rule.
-/
structure Reserve where
  declared : Option Value := none
  hidden : Value := .null
  extra : Value := .null
  isTracking : Bool := true
  setters : Option Value := none
  learned : List String := []
  rule : Option Value := none
deriving Repr

namespace Reserve

/- Whether a name was declared. -/
def declares
    (r : Reserve)
    (name : String) : Except Problem Bool :=
  match r.declared with
  | none => .ok false
  | some names => names.mentions name

/- What is found under a name that was declared. -/
def findHidden?
    (r : Reserve)
    (name : String) : Except Problem (Option Value) := do
  let _ ← (r.declared.getD (.map [])).lookUp name
  r.hidden.lookUp name

/- What is found under a name among the extra values. -/
def findExtra?
    (r : Reserve)
    (name : String) : Except Problem (Option Value) := do
  if !r.extra.isTrue then
    return none
  else if ← r.extra.mentions name then
    r.extra.lookUp name
  else
    return none

/- What is found under a name, if anything is. -/
def find?
    (r : Reserve)
    (name : String) : Except Problem (Option Value) := do
  if ← r.declares name then
    r.findHidden? name
  else
    r.findExtra? name

/- What the directory has for a field, or null. -/
def setter
    (r : Reserve)
    (field : String) : Except Problem Value :=
  match r.setters with
  | none => .ok .null
  | some directory =>
      if directory.kind = .map then
        (directory.lookUp field).map (·.getD .null)
      else
        .error (.lacking (.value directory.kind) "get")

/- Put another value in the place of the directory. -/
def redirect
    (setters : Option Value)
    (r : Reserve) : Reserve :=
  { r with
    setters
    learned := [] }

/- Learn how a field is set. -/
def learn
    (field : String)
    (r : Reserve) : Reserve :=
  { r with learned := field :: r.learned }

/-
  The fields that the directory has.  Those that are `known`
  are in the first one from the start.
-/
def listed
    (r : Reserve)
    (known : List String) : List String :=
  if r.setters.isNone then known else r.learned

/-
  The problem with setting a field.  The rule is not needed
  for fields that the directory has.
-/
def settingProblem?
    (r : Reserve)
    (known : List String)
    (field : String) : Option Problem :=
  match r.setter field with
  | .error problem => some problem
  | .ok .null =>
      if (r.listed known).contains field then none
      else r.rule.map fun v => .notCallable v.kind
  | .ok v => some (.notCallable v.kind)

end Reserve

end CypherAssembly
