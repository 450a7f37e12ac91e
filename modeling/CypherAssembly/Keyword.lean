/-
  The keywords of query clauses.

  Key definitions include:
    * `Keyword`
    * `Keyword.text`
    * `Keyword.name`
    * `Keyword.ofText?`

  Key theorems include:
    * `Keyword.ofText?_text`
-/

------------------------------------------------------------
-- Keywords
------------------------------------------------------------

namespace CypherAssembly

/- One keyword for each kind of clause. -/
inductive Keyword where
  | matching
  | optionalMatching
  | filtering
  | returning
  | carrying
  | create
  | merge
  | delete
  | detachDelete
  | remove
  | orderBy
  | skip
  | limit
  | call
  | union
  | unionAll
deriving DecidableEq, Repr

namespace Keyword

/- The keyword as it stands in a query. -/
def text : Keyword → String
  | matching => "MATCH"
  | optionalMatching => "OPTIONAL MATCH"
  | filtering => "WHERE"
  | returning => "RETURN"
  | carrying => "WITH"
  | create => "CREATE"
  | merge => "MERGE"
  | delete => "DELETE"
  | detachDelete => "DETACH DELETE"
  | remove => "REMOVE"
  | orderBy => "ORDER BY"
  | skip => "SKIP"
  | limit => "LIMIT"
  | call => "CALL"
  | union => "UNION"
  | unionAll => "UNION ALL"

/- Every keyword. -/
def all : List Keyword :=
  [matching, optionalMatching, filtering, returning,
    carrying, create, merge, delete, detachDelete, remove,
    orderBy, skip, limit, call, union, unionAll]

/- The keyword in one word, with underscores for spaces. -/
def name
    (k : Keyword) : String :=
  String.ofList
    (k.text.toList.map fun c => if c = ' ' then '_' else c)

/- The keyword that stands in a query as the given text. -/
def ofText?
    (s : String) : Option Keyword :=
  all.find? fun k => k.text == s

/- Every keyword is listed. -/
theorem mem_all
    (k : Keyword) :
    k ∈ all := by
  cases k <;> decide

/- A keyword is found again under its own text. -/
theorem ofText?_text
    (k : Keyword) :
    ofText? k.text = some k := by
  cases k <;> rfl

end Keyword

end CypherAssembly

------------------------------------------------------------
-- Clause Text
------------------------------------------------------------

namespace CypherAssembly

namespace Keyword

/- A keyword, a space and what the clause is about. -/
def phrase
    (k : Keyword)
    (operand : String) : String :=
  k.text ++ " " ++ operand

/- A clause on a line of its own. -/
def clause
    (k : Keyword)
    (operand : String) : String :=
  k.phrase operand ++ "\n"

end Keyword

end CypherAssembly
