import CypherAssembly.Content.Refilled

/-
  Content of clauses.

  Key definitions include:
    * `Content`
    * `Content.kind`
    * `Content.render`
    * `Content.foreign?`
    * `Content.answer`
    * `Shape`
    * `Content.places`
    * `Content.populated`
    * `Content.emptiness?`
    * `Content.isEmpty?`
    * `Content.isDescription`
    * `Content.obstacle?`
    * `Content.strangeness`

  Whatever a clause can be given is content.  Most content
  can be rendered to text, and rendering may fail.  A
  pattern is a choice between three shapes and is resolved
  instead of rendered.
-/

------------------------------------------------------------
-- Content
------------------------------------------------------------

namespace CypherAssembly

/-
  Content of any kind.  A `bare` value is in the place of
  content, and where none was given, that value is null.  A
  path without a known end is `partialPath`.  A pattern
  keeps a place for each of its shapes.  `fixed` and
  `described` content has a text of its own, and `failing`
  content only ever reports its fault.  Content can be
  `marked` with values that it has no use for itself, and
  its fields can be replaced as a whole.
-/
inductive Content where
  | bare (v : Value)
  | node (n : Node)
  | relationship (r : Relationship)
  | onlyNode (node : Content)
  | partialPath (start link : Content)
  | fullPath (start link finish : Content)
  | pattern (single partly fully : Content)
  | condition (c : Condition)
  | projection (p : Projection)
  | targets (t : Targets)
  | sortOrder (o : SortOrder)
  | fixed (text : Value)
  | described (text isEmpty : Value)
  | failing (fault : Fault)
  | marked (content : Content) (marks : Record Value)
  | refilled (r : Refilled)
deriving Repr

namespace Content

/- No content at all. -/
def nothing : Content :=
  bare .null

/- The kind of a piece of content. -/
def kind : Content → ContentKind
  | bare v => .value v.kind
  | node _ => .node
  | relationship _ => .relationship
  | onlyNode _ => .onlyNode
  | partialPath _ _ => .partialPath
  | fullPath _ _ _ => .fullPath
  | pattern _ _ _ => .pattern
  | condition _ => .condition
  | projection p => p.kind.contentKind
  | targets _ => .targets
  | sortOrder _ => .ordering
  | fixed _ => .fixed
  | described _ _ => .described
  | failing _ => .failing
  | marked c _ => c.kind
  | refilled r => r.kind

/- Whether there is any content at all. -/
def isGiven : Content → Bool
  | bare .null => false
  | _ => true

/-
  Whether content can be rendered, though it may fail.  A
  mark hides the ability that it is called like.
-/
def isRenderable : Content → Bool
  | bare _ => false
  | pattern _ _ _ => false
  | marked c marks =>
      match marks.get? "render" with
      | some v => v.kind != .null
      | none => c.isRenderable
  | refilled r => r.isRenderable
  | _ => true

end Content

end CypherAssembly

------------------------------------------------------------
-- Rendering
------------------------------------------------------------

namespace CypherAssembly

namespace Content

/-
  The text of content, or the fault that prevents it.  The
  pieces of a path are rendered from left to right, and the
  first fault counts.
-/
def render : Content → Except Fault String
  | bare v =>
      .error (.outside (.notRenderable (.value v.kind)))
  | pattern _ _ _ =>
      .error (.outside (.notRenderable .pattern))
  | node n => n.render
  | relationship r => r.render
  | onlyNode n => n.render
  | partialPath start link => do
      let a ← start.render
      let r ← link.render
      return a ++ r ++ "()"
  | fullPath start link finish => do
      let a ← start.render
      let r ← link.render
      let b ← finish.render
      return a ++ r ++ b
  | condition c => c.render
  | projection p => p.render
  | targets t => t.render
  | sortOrder o => o.render
  | fixed text => .ok text.plain
  | described text _ => .ok text.plain
  | failing fault => .error fault
  | marked c marks =>
      match marks.get? "render" with
      | some v => .error (.outside (.notCallable v.kind))
      | none => c.render
  | refilled r => r.render

/-
  The value that content has instead of a text of its own.
  Such a value can be put into a path, but it cannot be
  joined to the text of a clause.
-/
def foreign? : Content → Option Value
  | fixed v => v.unlessText?
  | described v _ => v.unlessText?
  | onlyNode n => n.foreign?
  | marked c marks =>
      match marks.get? "render" with
      | some _ => none
      | none => c.foreign?
  | refilled r => r.foreign?
  | _ => none

/-
  What content gives to somebody who renders it alone: the
  text that it was rendered to, or the value instead of it.
-/
def answer
    (c : Content)
    (text : String) : Value :=
  c.foreign?.getD (.text text)

end Content

end CypherAssembly

------------------------------------------------------------
-- Shapes of Patterns
------------------------------------------------------------

namespace CypherAssembly

/- The three shapes of a pattern, in order of preference. -/
inductive Shape where
  | onlyNode
  | partialPath
  | fullPath
deriving DecidableEq, Repr

namespace Shape

/- The name of the place that a pattern keeps for a shape. -/
def name : Shape → String
  | onlyNode => "only_node"
  | partialPath => "partial_relationship"
  | fullPath => "full_relationship"

/- Every shape, the preferred one first. -/
def all : List Shape :=
  [onlyNode, partialPath, fullPath]

/- The place for a shape in content of another kind. -/
def placeIn
    (r : Refilled)
    (s : Shape) : Except Problem (Shape × Content) :=
  (r.need s.name).map fun v => (s, .bare v)

end Shape

namespace Content

/- The places for shapes that some fields make up. -/
def placesIn
    (r : Refilled) :
    Except Problem (List (Shape × Content)) :=
  Shape.all.mapM (Shape.placeIn r)

/-
  The places for shapes, in order of preference.  Content
  that is no pattern has such places when it is marked with
  all three of them.
-/
def places :
    Content → Except Problem (List (Shape × Content))
  | pattern single partly fully =>
      .ok
        [(.onlyNode, single), (.partialPath, partly),
          (.fullPath, fully)]
  | marked c marks =>
      match c.places with
      | .ok places => .ok places
      | .error _ =>
          placesIn
            { kind := c.kind
              fields := marks }
  | refilled r => placesIn r
  | c =>
      placesIn
        { kind := c.kind
          fields := [] }

/- The places for shapes, none where there is a problem. -/
def knownPlaces
    (c : Content) : List (Shape × Content) :=
  c.places.toOption.getD []

/- The preferred one among the shapes that are given. -/
def preferred?
    (c : Content) : Option Content :=
  (c.knownPlaces.find? fun place =>
    place.2.isGiven).map (·.2)

/- The shapes that a pattern has content for. -/
def populated
    (c : Content) : List Shape :=
  (c.knownPlaces.filter fun place =>
    place.2.isGiven).map (·.1)

end Content

end CypherAssembly

------------------------------------------------------------
-- Emptiness
------------------------------------------------------------

namespace CypherAssembly

namespace Content

/-
  What refilled content says about being empty, if it can
  tell.  A pattern can if it has places for all shapes.
-/
def emptinessIn
    (r : Refilled) : Except Problem (Option Value) :=
  match r.kind, placesIn r with
  | .pattern, .ok _ =>
      .ok (some (.bool (refilled r).populated.isEmpty))
  | .pattern, .error _ => .ok none
  | _, _ => r.emptiness?

/-
  What content says about being empty, if it can tell.  A
  mark tells for content that cannot.
-/
def emptiness? : Content → Option Value
  | pattern a b c =>
      some (.bool (pattern a b c).populated.isEmpty)
  | targets t => some (.bool t.isEmpty)
  | sortOrder o => some (.bool o.isEmpty)
  | described _ isEmpty => some isEmpty
  | marked c marks =>
      match c.emptiness? with
      | some isEmpty => some isEmpty
      | none => marks.get? "is_empty"
  | refilled r => (emptinessIn r).toOption.join
  | _ => none

/- Whether content is empty, for content that can tell. -/
def isEmpty?
    (c : Content) : Option Bool :=
  c.emptiness?.map Value.isTrue

/-
  Holds for content that can be rendered and can also tell
  whether it is empty.
-/
def isDescription
    (c : Content) : Bool :=
  c.isRenderable && c.isEmpty?.isSome

/-
  Holds where there is nothing to put into a clause: no
  content, or a description that says it is empty.
-/
def isVacant
    (c : Content) : Bool :=
  !c.isGiven || (c.isDescription && c.isEmpty?.getD false)

/- The problem with asking content whether it is empty. -/
def obstacle? : Content → Option Problem
  | refilled r =>
      match emptinessIn r with
      | .ok _ => none
      | .error problem => some problem
  | _ => none

/-
  The problem with content in the place of a query.  There
  is nothing in it that could be executed.
-/
def strangeness : Content → Problem
  | marked c marks =>
      match marks.get? "execute" with
      | some v => .notCallable v.kind
      | none => c.strangeness
  | refilled r =>
      match r.need "execute" with
      | .ok v => .notCallable v.kind
      | .error problem => problem
  | c => .lacking c.kind "execute"

end Content

end CypherAssembly
