import CypherAssembly.Content
import CypherAssembly.Refusal

/-
  Fields of content, one by one.

  Key definitions include:
    * `Node.assign?`
    * `Relationship.assign?`
    * `ContentKind.assignOther`
    * `Condition.assign`
    * `Refilled.assign`
    * `Content.refill`

  A new value for a field is kept as it is.  Content whose
  fields are checked when it is made has no fields besides
  those, while content of other kinds leaves unknown fields
  to whoever keeps them.
-/

------------------------------------------------------------
-- Fields of Patterns
------------------------------------------------------------

namespace CypherAssembly

/- A node with one of its fields set. -/
def Node.assign?
    (n : Node)
    (field : String)
    (v : Value) : Option Node :=
  match field with
  | "variable" => some { n with var := v }
  | "labels" => some { n with labels := v }
  | "properties" => some { n with properties := v }
  | _ => none

/- A relationship with one of its fields set. -/
def Relationship.assign?
    (r : Relationship)
    (field : String)
    (v : Value) : Option Relationship :=
  match field with
  | "variable" => some { r with var := v }
  | "types" => some { r with types := v }
  | "properties" => some { r with properties := v }
  | "direction" => some { r with direction := .ofValue v }
  | "min_hops" => some { r with least := v }
  | "max_hops" => some { r with most := v }
  | "_render_length" => some { r with rule := some v }
  | _ => none

end CypherAssembly

------------------------------------------------------------
-- Fields That Are Checked
------------------------------------------------------------

namespace CypherAssembly

/- Names that nobody can set in content with checked fields. -/
def fixedNames : List String :=
  ["model_fields_set", "model_extra", "__fields_set__",
    "__fields__"]

/- Names that stand for something that is worked out. -/
def ContentKind.derivedNames : ContentKind → List String
  | pattern => ["populated", "is_empty"]
  | targets => ["is_empty"]
  | ordering => ["is_empty"]
  | _ => []

/-
  What becomes of content when a field is set that it does
  not have.  Private names are let through without effect.
-/
def ContentKind.assignOther
    {A : Type}
    (kind : ContentKind)
    (unchanged : A)
    (field : String) : Except Refusal A :=
  if (fixedNames ++ kind.derivedNames).contains field then
    .error (.fixedField kind field)
  else if field.toList.head? == some '_' then .ok unchanged
  else .error (.noField kind field)

/- A condition with a field set. -/
def Condition.assign
    (c : Condition)
    (field : String)
    (v : Value) : Except Refusal Condition :=
  match field with
  | "expression" => .ok { c with expression := v }
  | "operator" => .ok { c with operator := v }
  | "negate" => .ok { c with negate := v }
  | _ => ContentKind.condition.assignOther c field

/- A projected expression with a field set. -/
def Projection.assign
    (p : Projection)
    (field : String)
    (v : Value) : Except Refusal Projection :=
  match field with
  | "expression" => .ok { p with expression := v }
  | "alias" => .ok { p with name := v }
  | _ => p.kind.contentKind.assignOther p field

/- Targets with a field set. -/
def Targets.assign
    (t : Targets)
    (field : String)
    (v : Value) : Except Refusal Targets :=
  match field with
  | "items" => .ok { t with items := v }
  | _ => ContentKind.targets.assignOther t field

/- A sort order with a field set. -/
def SortOrder.assign
    (o : SortOrder)
    (field : String)
    (v : Value) : Except Refusal SortOrder :=
  match field with
  | "items" => .ok { o with items := v }
  | "descending" => .ok { o with descending := v }
  | _ => ContentKind.ordering.assignOther o field

end CypherAssembly

------------------------------------------------------------
-- Fields That Were Replaced
------------------------------------------------------------

namespace CypherAssembly

/- The names of fields that are checked. -/
def ContentKind.checkedFields : ContentKind → List String
  | condition => ["expression", "operator", "negate"]
  | returnItem => ["expression", "alias"]
  | carryItem => ["expression", "alias"]
  | targets => ["items"]
  | ordering => ["items", "descending"]
  | _ => []

namespace Refilled

/- Content with a field put in as it is. -/
def put
    (field : String)
    (v : Value)
    (r : Refilled) : Refilled :=
  { r with fields := r.fields.put field v }

/-
  Content with all fields replaced, and with them what the
  reserve takes from fields.
-/
def refill
    (fields : Record Value)
    (r : Refilled) : Refilled :=
  let field := fun name =>
    if r.kind.isChecked then fields.get? name else none
  let reserve := r.reserve.redirect (field "__setters__")
  { r with
    fields
    reserve :=
      { reserve with
        declared := field "__private_attributes__"
        rule := field "_setattr_handler" } }

/-
  Content with a field set that is checked.  How to set it
  is learned, unless that fails because nobody keeps track.
-/
def putChecked
    (field : String)
    (v : Value)
    (r : Refilled) : Refilled :=
  let after := r.put field v
  if r.reserve.isTracking then
    { after with reserve := r.reserve.learn field }
  else
    after

/- Content with a field set. -/
def assign
    (r : Refilled)
    (field : String)
    (v : Value) : Except Refusal Refilled :=
  if r.kind.checkedFields.contains field then
    .ok (r.putChecked field v)
  else if r.kind.isChecked then
    r.kind.assignOther r field
  else if r.kind.derivedNames.contains field then
    .error (.fixedField r.kind field)
  else
    .ok (r.put field v)

end Refilled

namespace Content

/- The fields of content, where they are checked. -/
def checkedFields : Content → Record Value
  | condition c =>
      [("expression", c.expression), ("operator", c.operator),
        ("negate", c.negate)]
  | projection p =>
      [("expression", p.expression), ("alias", p.name)]
  | targets t => [("items", t.items)]
  | sortOrder o =>
      [("items", o.items), ("descending", o.descending)]
  | _ => []

/- Content as it is to be refilled. -/
def refillable : Content → Refilled
  | refilled r => r
  | c =>
      { kind := c.kind
        fields := c.checkedFields }

/- Content with its fields replaced by a record. -/
def refill
    (fields : Record Value)
    (c : Content) : Content :=
  refilled (c.refillable.refill fields)

/-
  Content with a change in its reserve.  This has no effect
  on content that never looks into it.
-/
def withReserve
    (change : Reserve → Reserve)
    (c : Content) : Content :=
  if c.kind.isChecked then
    let r := c.refillable
    refilled { r with reserve := change r.reserve }
  else
    c

end Content

end CypherAssembly
