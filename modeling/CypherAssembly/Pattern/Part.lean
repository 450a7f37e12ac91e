import CypherAssembly.Fault

/-
  The parts that node and relationship patterns share.

  Key definitions include:
    * `Part.checkName`
    * `Part.var`
    * `Part.names`
    * `Part.properties`

  Key theorems include:
    * `Part.names_texts`

  A part is written from the value that a pattern holds for
  it.  A value that counts as false leaves no trace in the
  pattern.  A name of the wrong form leaves none either, nor
  does a value of the wrong kind: it makes the whole pattern
  fail.
-/

------------------------------------------------------------
-- Names
------------------------------------------------------------

namespace CypherAssembly

namespace Part

/- The name itself, if its form is right. -/
def checkName
    (role : NameRole)
    (name : String) : Except Fault String :=
  if isName name then .ok name
  else .error (.badName role name)

/- A name has to be a text. -/
def checkNameValue
    (role : NameRole) : Value → Except Fault String
  | .text name => checkName role name
  | v => .error (.outside (.notText v.kind))

/- A variable, which may be left out or be empty. -/
def var
    (role : NameRole)
    (given : Value) : Except Fault String :=
  if given.isTrue then checkNameValue role given else .ok ""

/- Names behind a colon, with a separator between them. -/
def names
    (role : NameRole)
    (separator : String)
    (given : Value) : Except Fault String :=
  if given.isTrue then
    match given.elements? with
    | some elements => do
        let checked ← elements.mapM (checkNameValue role)
        return ":" ++ separator.intercalate checked
    | none => .error (.outside (.notIterable given.kind))
  else
    .ok ""

/- Names that are texts are checked one after the other. -/
theorem names_texts
    (role : NameRole)
    (separator : String)
    (given : List String) :
    names role separator (.texts given) =
      if given.isEmpty then .ok ""
      else do
        let checked ← given.mapM (checkName role)
        return ":" ++ separator.intercalate checked := by
  cases given with
  | nil => rfl
  | cons first rest =>
      simp [names, Value.texts, Value.isTrue,
        Value.elements?, checkNameValue, Function.comp_def]

end Part

end CypherAssembly

------------------------------------------------------------
-- Properties
------------------------------------------------------------

namespace CypherAssembly

namespace Part

/- One property, its key checked before its value. -/
def property
    (entry : String × Value) : Except Fault String := do
  let key ← checkName .propertyKey entry.1
  let value ← entry.2.inText Value.literal
  return key ++ ": " ++ value

/- A property under a name that need not be a text. -/
def anyProperty
    (entry : Value × Value) : Except Fault String := do
  let key ← checkNameValue .propertyKey entry.1
  let value ← entry.2.inText Value.literal
  return key ++ ": " ++ value

/- Properties between braces, behind a space. -/
def between
    (written : List String) : String :=
  " \x7b" ++ ", ".intercalate written ++ "\x7d"

/- All properties, unless there are none. -/
def properties
    (given : Value) : Except Fault String :=
  if given.isTrue then
    match given with
    | .map entries =>
        (entries.mapM property).map between
    | .table entries =>
        (entries.mapM anyProperty).map between
    | v =>
        .error (.outside (.lacking (.value v.kind) "items"))
  else
    .ok ""

end Part

end CypherAssembly
