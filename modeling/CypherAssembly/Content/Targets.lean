import CypherAssembly.Content.Expression

/-
  Targets of removal and expressions to sort by.

  Key definitions include:
    * `Targets`
    * `Targets.ofTexts`
    * `Targets.render`
    * `SortOrder`
    * `SortOrder.ofParts`
    * `SortOrder.render`

  Both are lists of texts, and both say themselves whether
  they are empty.  A blank text in the list is a fault.
-/

------------------------------------------------------------
-- Targets
------------------------------------------------------------

namespace CypherAssembly

/- Variables, properties or labels to take away. -/
structure Targets where
  items : Value := .list []
deriving Repr

namespace Targets

/- Targets that are texts, as they should be. -/
def ofTexts
    (items : List String) : Targets :=
  { items := .texts items }

/- Holds when there is nothing to take away. -/
def isEmpty
    (t : Targets) : Bool :=
  !t.items.isTrue

/-
  The items in a row, unless one of them is blank.  First
  they all have to be texts.
-/
def written
    (items : Except Fault Value) : Except Fault String := do
  let elements ← Expression.elements (← items)
  let items ← elements.mapM Expression.text
  match items.findIdx? isBlank with
  | some position => throw (.blankTarget position)
  | none => return ", ".intercalate items

/- The text of targets. -/
def render
    (t : Targets) : Except Fault String :=
  written (.ok t.items)

end Targets

end CypherAssembly

------------------------------------------------------------
-- Sort Orders
------------------------------------------------------------

namespace CypherAssembly

/- Expressions to sort by, in one common direction. -/
structure SortOrder where
  items : Value := .list []
  descending : Value := .bool false
deriving Repr

namespace SortOrder

/- A sort order with parts as they should be. -/
def ofParts
    (items : List String)
    (descending : Bool) : SortOrder :=
  { items := .texts items
    descending := .bool descending }

/- Holds when there is nothing to sort by. -/
def isEmpty
    (o : SortOrder) : Bool :=
  !o.items.isTrue

/-
  The expressions in a row.  The first one that is blank or
  no text decides about the fault.  A part that cannot be
  had matters when its turn comes.
-/
def written
    (items descending : Except Fault Value) :
    Except Fault String := do
  let elements ← Expression.elements (← items)
  let items ←
    elements.mapM (Expression.read .blankOrdering)
  return ", ".intercalate items ++
    if (← descending).isTrue then " DESC" else ""

/- The text of a sort order. -/
def render
    (o : SortOrder) : Except Fault String :=
  written (.ok o.items) (.ok o.descending)

end SortOrder

end CypherAssembly
