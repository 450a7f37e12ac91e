import CypherAssembly.Pattern.Part

/-
  Relationship patterns.

  Key definitions include:
    * `Direction`
    * `Relationship`
    * `Relationship.ofParts`
    * `Relationship.length`
    * `Relationship.written`
    * `Relationship.render`

  A relationship pattern stands between brackets, with an
  arrow around it.  Faults are looked for from left to
  right, the direction last.
-/

------------------------------------------------------------
-- Directions
------------------------------------------------------------

namespace CypherAssembly

/- Where a relationship points, as far as it makes sense. -/
inductive Direction where
  | outgoing
  | incoming
  | either
  | unknown (given : Value)
deriving Repr

namespace Direction

/- The direction that a caller writes as an arrow. -/
def ofValue : Value → Direction
  | .text "->" => outgoing
  | .text "<-" => incoming
  | .text "-" => either
  | given => unknown given

/-
  Put the arrow around the bracketed part.  A direction that
  there is no arrow for has to be shown in a message.
-/
def around
    (body : String) : Direction → Except Fault String
  | outgoing => .ok ("-" ++ body ++ "->")
  | incoming => .ok ("<-" ++ body ++ "-")
  | either => .ok ("-" ++ body ++ "-")
  | unknown given => do
      let _ ← given.inText Value.shown
      .error (.unknownDirection given)

end Direction

end CypherAssembly

------------------------------------------------------------
-- Relationships
------------------------------------------------------------

namespace CypherAssembly

/-
  A pattern that matches a path of relationships.  As with
  nodes, whatever a caller gives is kept until it is
  rendered.  A bound on the number of hops is left out by
  giving nothing for it.  A value can be put in the place of
  the rule by which the bounds are written, and then they
  cannot be written any more.
-/
structure Relationship where
  var : Value := .text ""
  types : Value := .list []
  properties : Value := .map []
  direction : Direction := .outgoing
  least : Value := .null
  most : Value := .null
  rule : Option Value := none
deriving Repr

namespace Relationship

/- A bound on the number of hops as it should be. -/
def bound : Option Int → Value
  | none => .null
  | some n => .int n

/- A relationship with parts as they should be. -/
def ofParts
    (var : String)
    (types : List String)
    (properties : Record Value)
    (direction : Direction)
    (least most : Option Int) : Relationship :=
  { var := .text var
    types := .texts types
    properties := .map properties
    direction
    least := bound least
    most := bound most }

/- Types and properties that count as false are none. -/
def normal
    (r : Relationship) : Relationship :=
  { r with
    types := r.types.orElse (.list [])
    properties := r.properties.orElse (.map []) }

/- Set both bounds on the number of hops. -/
def withLength
    (least most : Value)
    (r : Relationship) : Relationship :=
  { r with least, most }

/-
  Both bounds on the number of hops.  They are written in
  any case, if only to say that they are the wrong way round.
-/
def range
    (least most : Value) : Except Fault String :=
  match least.exceeds most with
  | .error pair => .error (.outside (.notOrdered pair))
  | .ok isCrossed => do
      let first ← least.inText Value.plain
      let last ← most.inText Value.plain
      if isCrossed then .error (.crossedHops least most)
      else .ok ("*" ++ first ++ ".." ++ last)

/- The number of hops, when it is bounded at all. -/
def hops : Value → Value → Except Fault String
  | .null, .null => .ok ""
  | least, .null => do
      return "*" ++ (← least.inText Value.plain) ++ ".."
  | .null, most => do
      return "*.." ++ (← most.inText Value.plain)
  | least, most => range least most

/- The number of hops, written by the rule in force. -/
def length
    (r : Relationship) : Except Fault String :=
  match r.rule with
  | some v => .error (.outside (.notCallable v.kind))
  | none => hops r.least r.most

/-
  A relationship pattern written from its parts.  A part
  that cannot be had matters when its turn comes.
-/
def written
    (var types : Except Fault Value)
    (length : Except Fault String)
    (properties : Except Fault Value)
    (direction : Except Fault Direction) :
    Except Fault String := do
  let var ← Part.var .relationshipVariable (← var)
  let types ← Part.names .relationshipType "|" (← types)
  let length ← length
  let properties ← Part.properties (← properties)
  (← direction).around
    ("[" ++ var ++ types ++ length ++ properties ++ "]")

/- The text of a relationship pattern. -/
def render
    (r : Relationship) : Except Fault String :=
  written (.ok r.var) (.ok r.types) r.length
    (.ok r.properties) (.ok r.direction)

end Relationship

end CypherAssembly
