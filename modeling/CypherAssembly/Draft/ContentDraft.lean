import CypherAssembly.Content
import CypherAssembly.Draft.FaultDraft

/-
  Drafts of content.

  Key definitions include:
    * `Condition.ofFields`
    * `Projection.ofFields`
    * `Targets.ofFields`
    * `SortOrder.ofFields`
    * `Content.ofArguments`
    * `ContentDraft`
    * `ContentDraft.build`

  A draft is content that was not checked yet.  It may refer
  to content that was put under a name before.
-/

------------------------------------------------------------
-- Content With Checked Fields
------------------------------------------------------------

namespace CypherAssembly

/- A condition from its fields. -/
def Condition.ofFields
    (fields : Record Value) : Checked Condition :=
  let expression :=
    Field.required "expression" Field.text? fields
  let operator :=
    Field.withDefault "operator" none
      (Field.orNothing Field.operator?) fields
  let negate :=
    Field.withDefault "negate" false Field.flag? fields
  (expression.and (operator.and negate)).map fun r =>
    .ofParts r.1 r.2.1 r.2.2

/- A projected expression from its fields. -/
def Projection.ofFields
    (kind : ProjectionKind)
    (fields : Record Value) : Checked Projection :=
  let expression :=
    Field.required "expression" Field.text? fields
  let name :=
    Field.withDefault "alias" none
      (Field.orNothing Field.text?) fields
  (expression.and name).map fun r =>
    .ofParts kind r.1 r.2

/- Targets from their fields. -/
def Targets.ofFields
    (fields : Record Value) : Checked Targets :=
  (Field.texts "items" fields).map .ofTexts

/- A sort order from its fields. -/
def SortOrder.ofFields
    (fields : Record Value) : Checked SortOrder :=
  let descending :=
    Field.withDefault "descending" false Field.flag? fields
  ((Field.texts "items" fields).and descending).map fun r =>
    .ofParts r.1 r.2

end CypherAssembly

------------------------------------------------------------
-- Arguments
------------------------------------------------------------

namespace CypherAssembly

namespace Arguments

/- Several arguments that are given by one value. -/
def inOrder
    (v : Value) : Except Refusal (List Value) :=
  match v.elements? with
  | some elements => .ok elements
  | none => .error (.ofProblem (.notIterable v.kind))

/- A relationship with bounds on its hops, two at most. -/
def boundedBy
    (r : Relationship) :
    List Value → Except Refusal Relationship
  | [] => .ok (r.withLength .null .null)
  | [least] => .ok (r.withLength least .null)
  | [least, most] => .ok (r.withLength least most)
  | _ => .error (.surplus "bound")

/- Arguments with names that are given by one value. -/
def byName : Value → Except Refusal (Record Value)
  | .map entries => .ok entries
  | v => .error (.ofProblem (.notIterable v.kind))

end Arguments

end CypherAssembly

------------------------------------------------------------
-- Patterns in Short
------------------------------------------------------------

namespace CypherAssembly

/- A pattern with a single node. -/
def Content.ofNode
    (n : Node) : Content :=
  .pattern (.onlyNode (.node n)) .nothing .nothing

/- A pattern with a path between two nodes. -/
def Content.ofFullPath
    (start link finish : Content) : Content :=
  .pattern .nothing .nothing (.fullPath start link finish)

/-
  A pattern with a single node.  Its variable and its labels
  are given by their order and its properties by name.  With
  no argument in order, the variable can be among those with
  names.
-/
def Content.ofArguments
    (arguments : List Value)
    (properties : Record Value) : Except Refusal Content :=
  let named := properties.get? "variable"
  if (properties.get? "cls").isSome then
    .error (.clash "cls")
  else
    match arguments, named with
    | _ :: _, some _ => .error (.clash "variable")
    | var :: labels, none =>
        .ok (.ofNode
          { var
            labels := .list labels
            properties := .map properties })
    | [], _ =>
        .ok (.ofNode
          { var := named.getD (.text "")
            properties :=
              .map (properties.erase "variable") })

end CypherAssembly

------------------------------------------------------------
-- Drafts
------------------------------------------------------------

namespace CypherAssembly

/-
  Content as a caller describes it.  A description that
  makes no sense is `refused` when its turn comes.
-/
inductive ContentDraft where
  | nothing
  | node (n : Node)
  | relationship (r : Relationship)
  | onlyNode (node : ContentDraft)
  | partialPath (start link : ContentDraft)
  | fullPath (start link finish : ContentDraft)
  | pattern (single partly fully : ContentDraft)
  | namedNode (var : Option Value) (labels properties : Value)
  | condition (fields : Record Value)
  | projection (kind : ProjectionKind) (fields : Record Value)
  | targets (fields : Record Value)
  | sortOrder (fields : Record Value)
  | fixed (text : Value)
  | described (text isEmpty : Value)
  | failing (fault : FaultDraft)
  | named (name : Value)
  | refused (r : Refusal)
deriving Repr

namespace ContentDraft

/- A pattern with a path whose end is not known. -/
def ofPartialPath
    (start link : ContentDraft) : ContentDraft :=
  .pattern .nothing (.partialPath start link) .nothing

/- A pattern with a path between two nodes. -/
def ofFullPath
    (start link finish : ContentDraft) : ContentDraft :=
  .pattern .nothing .nothing (.fullPath start link finish)

/- Checked fields, or the refusal that they cause. -/
def checked
    {A : Type}
    (make : A → Content)
    (result : Checked A) : Except Refusal Content :=
  match result with
  | .ok a => .ok (make a)
  | .error faults => .error (.fields faults)

/-
  The content that a draft stands for, where `find?` knows
  the content that was put under names.
-/
def build
    (find? : Value → Option Content) :
    ContentDraft → Except Refusal Content
  | nothing => .ok .nothing
  | node n => .ok (.node n)
  | relationship r => .ok (.relationship r)
  | onlyNode n => do
      return .onlyNode (← n.build find?)
  | partialPath start link => do
      let a ← start.build find?
      let r ← link.build find?
      return .partialPath a r
  | fullPath start link finish => do
      let a ← start.build find?
      let r ← link.build find?
      let b ← finish.build find?
      return .fullPath a r b
  | pattern single partly fully => do
      let a ← single.build find?
      let b ← partly.build find?
      let c ← fully.build find?
      return .pattern a b c
  | namedNode var labels properties => do
      let labels ← Arguments.inOrder labels
      let properties ← Arguments.byName properties
      Content.ofArguments (var.toList ++ labels) properties
  | condition fields =>
      checked .condition (Condition.ofFields fields)
  | projection kind fields =>
      checked .projection (Projection.ofFields kind fields)
  | targets fields =>
      checked .targets (Targets.ofFields fields)
  | sortOrder fields =>
      checked .sortOrder (SortOrder.ofFields fields)
  | fixed text => .ok (.fixed text)
  | described text isEmpty => .ok (.described text isEmpty)
  | failing fault => do
      return .failing (← fault.build)
  | named name => do
      match find? (← name.asName) with
      | some c => return c
      | none => throw (.noSuchName name)
  | refused r => .error r

/- The content of several drafts, or the first refusal. -/
def buildAll
    (find? : Value → Option Content)
    (drafts : List ContentDraft) :
    Except Refusal (List Content) :=
  drafts.mapM (build find?)

end ContentDraft

end CypherAssembly
