/-
  Names in patterns.

  Key definitions include:
    * `NameRole`
    * `isPlainName`
    * `isQuotedName`
    * `isName`

  A variable, a label, a relationship type or a property key
  goes into a query as it stands, so its form is checked
  first.  A name is either plain or put between backticks.
  One newline after the name is let through.
-/

------------------------------------------------------------
-- Roles
------------------------------------------------------------

namespace CypherAssembly

/- What a name is used for. -/
inductive NameRole where
  | nodeVariable
  | nodeLabel
  | relationshipVariable
  | relationshipType
  | propertyKey
deriving DecidableEq, Repr

/- The role as messages call it. -/
def NameRole.text : NameRole → String
  | nodeVariable => "node variable"
  | nodeLabel => "node label"
  | relationshipVariable => "relationship variable"
  | relationshipType => "relationship type"
  | propertyKey => "property key"

end CypherAssembly

------------------------------------------------------------
-- Forms
------------------------------------------------------------

namespace CypherAssembly

/- An ASCII letter or the underscore. -/
def isNameStart
    (c : Char) : Bool :=
  c.isAlpha || c == '_'

/- An ASCII letter, a digit or the underscore. -/
def isNameChar
    (c : Char) : Bool :=
  c.isAlphanum || c == '_'

/-
  A letter or an underscore, followed by letters, digits and
  underscores.
-/
def isPlainName : List Char → Bool
  | [] => false
  | c :: rest => isNameStart c && rest.all isNameChar

/-
  What follows the opening backtick of a quoted name: some
  characters that are no backticks, and a closing backtick.
-/
def isQuotedRest : List Char → Bool
  | [] => false
  | [_] => false
  | [c, d] => c != '\x60' && d == '\x60'
  | c :: d :: e :: rest =>
      c != '\x60' && isQuotedRest (d :: e :: rest)

/- At least one character between two backticks. -/
def isQuotedName : List Char → Bool
  | [] => false
  | c :: rest => c == '\x60' && isQuotedRest rest

/- A plain or a quoted name, with nothing around it. -/
def isBareName
    (cs : List Char) : Bool :=
  isPlainName cs || isQuotedName cs

/- A name, possibly with one newline after it. -/
def isName
    (s : String) : Bool :=
  isBareName s.toList ||
    (s.toList.getLast? == some '\n' &&
      isBareName s.toList.dropLast)

end CypherAssembly
