import CypherAssembly.Value

/-
  Kinds of content.

  Key definitions include:
    * `ContentKind`
    * `ContentKind.name`
    * `ProjectionKind`
-/

------------------------------------------------------------
-- Kinds
------------------------------------------------------------

namespace CypherAssembly

/-
  What a piece of content is.  A value may stand in the
  place of content, and nothing at all is a value, too.
-/
inductive ContentKind where
  | value (kind : ValueKind)
  | node
  | relationship
  | onlyNode
  | partialPath
  | fullPath
  | pattern
  | condition
  | returnItem
  | carryItem
  | targets
  | ordering
  | fixed
  | described
  | failing
deriving DecidableEq, Repr

/- The name of a kind in messages and details. -/
def ContentKind.name : ContentKind → String
  | value kind => kind.name
  | node => "NodePattern"
  | relationship => "RelationshipPattern"
  | onlyNode => "OnlyNode"
  | partialPath => "PartialRelationship"
  | fullPath => "FullRelationship"
  | pattern => "QueryPattern"
  | condition => "Condition"
  | returnItem => "ReturnItem"
  | carryItem => "WithItem"
  | targets => "RemoveTarget"
  | ordering => "OrderBy"
  | fixed => "StaticRenderable"
  | described => "DescribedRenderable"
  | failing => "FailingRenderable"

end CypherAssembly

------------------------------------------------------------
-- Projections
------------------------------------------------------------

namespace CypherAssembly

/- The two kinds of projected expressions. -/
inductive ProjectionKind where
  | returned
  | carried
deriving DecidableEq, Repr

/- The kind of content that a projected expression is. -/
def ProjectionKind.contentKind :
    ProjectionKind → ContentKind
  | returned => .returnItem
  | carried => .carryItem

end CypherAssembly
