import CypherAssembly.Draft.Assignment

/-
  Fields of any content.

  Key definitions include:
    * `Content.ownAssign?`
    * `Content.assign`
    * `Content.withLength`

  What becomes of a field depends on the content: it may be
  one of its own fields, or a name under which any value is
  a mark, or a name that stands for all fields at once.
-/

------------------------------------------------------------
-- Fields of Content
------------------------------------------------------------

namespace CypherAssembly

namespace Content

/- A path or a pattern with one of its pieces set. -/
def assignPiece?
    (field : String)
    (piece : Content) : Content → Option Content
  | onlyNode _ =>
      match field with
      | "node" => some (onlyNode piece)
      | _ => none
  | partialPath start link =>
      match field with
      | "start" => some (partialPath piece link)
      | "relationship" => some (partialPath start piece)
      | _ => none
  | fullPath start link finish =>
      match field with
      | "start" => some (fullPath piece link finish)
      | "relationship" => some (fullPath start piece finish)
      | "end" => some (fullPath start link piece)
      | _ => none
  | pattern single partly fully =>
      match field with
      | "only_node" => some (pattern piece partly fully)
      | "partial_relationship" =>
          some (pattern single piece fully)
      | "full_relationship" =>
          some (pattern single partly piece)
      | _ => none
  | _ => none

/-
  Content with one of its own fields set.  There is no
  result for a name under which a mark has to be put.
-/
def ownAssign?
    (field : String)
    (v : Value) : Content → Option (Except Refusal Content)
  | bare value =>
      some (.error (.fixedField (.value value.kind) field))
  | node n => (n.assign? field v).map fun n => .ok (node n)
  | relationship r =>
      (r.assign? field v).map fun r => .ok (relationship r)
  | pattern single partly fully =>
      if ContentKind.pattern.derivedNames.contains field then
        some (.error (.fixedField .pattern field))
      else
        (assignPiece? field (bare v)
          (pattern single partly fully)).map .ok
  | condition c => some ((c.assign field v).map condition)
  | projection p => some ((p.assign field v).map projection)
  | targets t => some ((t.assign field v).map targets)
  | sortOrder o => some ((o.assign field v).map sortOrder)
  | fixed _ =>
      match field with
      | "text" => some (.ok (fixed v))
      | _ => none
  | described text isEmpty =>
      match field with
      | "text" => some (.ok (described v isEmpty))
      | "is_empty" => some (.ok (described text v))
      | _ => none
  | failing _ =>
      match field with
      | "error" => some (.ok (failing (.outside .notRaisable)))
      | _ => none
  | refilled r => some ((r.assign field v).map refilled)
  | c => (assignPiece? field (bare v) c).map .ok

/- Content with a field set, or with a mark. -/
def assignOrMark
    (field : String)
    (v : Value) : Content → Except Refusal Content
  | marked c marks =>
      match c.ownAssign? field v with
      | some result => result.map (marked · marks)
      | none => .ok (marked c (marks.put field v))
  | c =>
      match c.ownAssign? field v with
      | some result => result
      | none => .ok (marked c [(field, v)])

/-
  Content with a field set, unless that is impossible.  What
  content is stays as it is, and so does the place of its
  fields.
-/
def assign
    (field : String)
    (v : Value)
    (c : Content) : Except Refusal Content :=
  match field, c, v with
  | "__class__", _, v =>
      .error (.ofProblem (.unfitting field v.kind))
  | "__weakref__", c, _ => .error (.fixedField c.kind field)
  | "__dict__", bare value, _ =>
      .error (.fixedField (.value value.kind) field)
  | "__dict__", c, .map fields => .ok (c.refill fields)
  | "__dict__", c, .table entries =>
      .ok (c.refill (Value.namedEntries entries))
  | "__dict__", _, v =>
      .error (.ofProblem (.unfitting field v.kind))
  | "__private_attributes__", c, v =>
      (c.assignOrMark field v).map
        (withReserve fun r => { r with declared := some v })
  | "_setattr_handler", c, v =>
      (c.assignOrMark field v).map
        (withReserve fun r => { r with rule := some v })
  | _, c, v => c.assignOrMark field v

/- The operation of a name, hidden by what is found. -/
def noOperation
    (kind : ContentKind)
    (operation : String) :
    Except Problem (Option Value) → Refusal
  | .ok (some v) => .ofProblem (.notCallable v.kind)
  | .ok none => .noOperation kind operation
  | .error problem => .ofProblem problem

/-
  A relationship with both bounds on its hops set.  A mark
  hides the operation that it is called like.
-/
def withLength
    (least most : Value) : Content → Except Refusal Content
  | relationship r =>
      .ok (relationship (r.withLength least most))
  | marked c marks =>
      match marks.get? "with_length" with
      | some v => .error (.ofProblem (.notCallable v.kind))
      | none => do
          return marked (← c.withLength least most) marks
  | refilled r =>
      match r.kind, r.fields.get? "with_length" with
      | .relationship, none =>
          .ok (refilled
            ((r.put "min_hops" least).put "max_hops" most))
      | kind, _ =>
          .error (noOperation kind "with_length"
            (r.find? "with_length"))
  | c => .error (.noOperation c.kind "with_length")

end Content

end CypherAssembly
