import CypherAssembly.Content.Condition
import CypherAssembly.Content.Projection
import CypherAssembly.Content.Reserve
import CypherAssembly.Content.Targets
import CypherAssembly.Pattern.Node
import CypherAssembly.Pattern.Relationship

/-
  Content whose fields were replaced as a whole.

  Key definitions include:
    * `ContentKind.isChecked`
    * `Refilled`
    * `Refilled.find?`
    * `Refilled.render`
    * `Refilled.emptiness?`

  A caller may replace all fields of content by a record of
  his own.  Its kind stays what it was, but a field that the
  record does not have is missing from then on, and entries
  under other names hide what content of the kind can do.
  Missing fields show when their turn comes: whatever is
  wrong before that is reported first.
-/

------------------------------------------------------------
-- Refilled Content
------------------------------------------------------------

namespace CypherAssembly

/- Holds for content whose fields are checked when made. -/
def ContentKind.isChecked : ContentKind → Bool
  | condition => true
  | returnItem => true
  | carryItem => true
  | targets => true
  | ordering => true
  | _ => false

/-
  Content of a kind with any fields.  Only content with
  checked fields has something in its reserve.
-/
structure Refilled where
  kind : ContentKind
  fields : Record Value
  reserve : Reserve := {}
deriving Repr

namespace Refilled

/- What is there under a name, if anything is. -/
def find?
    (r : Refilled)
    (name : String) : Except Problem (Option Value) :=
  match r.fields.get? name with
  | some v => .ok (some v)
  | none => r.reserve.find? name

/- What is there under a name that is needed. -/
def need
    (r : Refilled)
    (name : String) : Except Problem Value := do
  match ← r.find? name with
  | some v => return v
  | none => throw (.lacking r.kind name)

/- A field, or the fault that it is missing. -/
def field
    (r : Refilled)
    (name : String) : Except Fault Value :=
  (r.need name).mapError .outside

end Refilled

end CypherAssembly

------------------------------------------------------------
-- Rendering
------------------------------------------------------------

namespace CypherAssembly

namespace Refilled

/- The number of hops, written by the rule in force. -/
def length
    (r : Refilled) : Except Fault String := do
  match r.fields.get? "_render_length" with
  | some v => throw (.outside (.notCallable v.kind))
  | none =>
      let least ← r.field "min_hops"
      let most ← r.field "max_hops"
      Relationship.hops least most

/- A value in the place of a piece cannot be rendered. -/
def piece
    (r : Refilled)
    (name : String) : Except Fault String := do
  let v ← r.field name
  throw (.outside (.notRenderable (.value v.kind)))

/- The text that content of its kind has. -/
def rendered
    (r : Refilled) : Except Fault String :=
  match r.kind with
  | .node =>
      Node.written (r.field "variable") (r.field "labels")
        (r.field "properties")
  | .relationship =>
      Relationship.written (r.field "variable")
        (r.field "types") r.length (r.field "properties")
        ((r.field "direction").map Direction.ofValue)
  | .onlyNode => r.piece "node"
  | .partialPath => r.piece "start"
  | .fullPath => r.piece "start"
  | .condition =>
      Condition.written (r.field "expression")
        (r.field "negate") (r.field "operator")
  | .returnItem =>
      Projection.written .returned (r.field "expression")
        (r.field "alias")
  | .carryItem =>
      Projection.written .carried (r.field "expression")
        (r.field "alias")
  | .targets => Targets.written (r.field "items")
  | .ordering =>
      SortOrder.written (r.field "items")
        (r.field "descending")
  | .fixed => (r.field "text").map Value.plain
  | .described => (r.field "text").map Value.plain
  | .failing => do
      let _ ← r.field "error"
      throw (.outside .notRaisable)
  | kind => .error (.outside (.notRenderable kind))

/- The text, unless rendering is hidden by an entry. -/
def render
    (r : Refilled) : Except Fault String :=
  match r.fields.get? "render" with
  | some v => .error (.outside (.notCallable v.kind))
  | none => r.rendered

/- Whether it can be rendered, though that may fail. -/
def isRenderable
    (r : Refilled) : Bool :=
  match r.fields.get? "render" with
  | some v => v.kind != .null
  | none => r.kind != .pattern

/- The value that stands in the place of a text. -/
def foreign?
    (r : Refilled) : Option Value :=
  match r.kind, r.fields.get? "render" with
  | .fixed, none =>
      (r.fields.get? "text").bind Value.unlessText?
  | .described, none =>
      (r.fields.get? "text").bind Value.unlessText?
  | _, _ => none

end Refilled

end CypherAssembly

------------------------------------------------------------
-- Emptiness
------------------------------------------------------------

namespace CypherAssembly

namespace Refilled

/- What it says about being empty, given its items. -/
def emptinessOfItems?
    (r : Refilled) : Except Problem (Option Value) := do
  match ← r.find? "items" with
  | some v => return some (.bool !v.isTrue)
  | none => r.reserve.find? "is_empty"

/- What it says about being empty, if it can tell. -/
def emptiness?
    (r : Refilled) : Except Problem (Option Value) :=
  match r.kind with
  | .targets => r.emptinessOfItems?
  | .ordering => r.emptinessOfItems?
  | _ => r.find? "is_empty"

end Refilled

end CypherAssembly
