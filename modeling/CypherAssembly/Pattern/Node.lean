import CypherAssembly.Pattern.Part

/-
  Node patterns.

  Key definitions include:
    * `Node`
    * `Node.ofParts`
    * `Node.written`
    * `Node.render`
    * `Node.shown`

  A node pattern stands between parentheses.  Variable,
  labels and properties may each be missing, so the empty
  node is a pattern too.
-/

------------------------------------------------------------
-- Nodes
------------------------------------------------------------

namespace CypherAssembly

/-
  A pattern that matches one node.  The variable should be a
  text, the labels a list of texts and the properties a map,
  but whatever a caller gives is kept until it is rendered.
-/
structure Node where
  var : Value := .text ""
  labels : Value := .list []
  properties : Value := .map []
deriving Repr

namespace Node

/- A node with parts as they should be. -/
def ofParts
    (var : String)
    (labels : List String)
    (properties : Record Value) : Node :=
  { var := .text var
    labels := .texts labels
    properties := .map properties }

/- Labels and properties that count as false are none. -/
def normal
    (n : Node) : Node :=
  { n with
    labels := n.labels.orElse (.list [])
    properties := n.properties.orElse (.map []) }

/-
  A node pattern written from its parts.  A part that cannot
  be had matters when its turn comes.
-/
def written
    (var labels properties : Except Fault Value) :
    Except Fault String := do
  let var ← Part.var .nodeVariable (← var)
  let labels ← Part.names .nodeLabel ":" (← labels)
  let properties ← Part.properties (← properties)
  return "(" ++ var ++ labels ++ properties ++ ")"

/- The text of a node pattern. -/
def render
    (n : Node) : Except Fault String :=
  written (.ok n.var) (.ok n.labels) (.ok n.properties)

/- The fields of a node, for a reader of messages. -/
def shown
    (n : Node) : String :=
  "NodePattern(variable=" ++ n.var.shown ++
    ", labels=" ++ n.labels.shown ++
    ", properties=" ++ n.properties.shown ++ ")"

end Node

end CypherAssembly
