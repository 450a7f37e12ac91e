import CypherAssembly.Draft.Marking

/-
  Edits of content.

  Key definitions include:
    * `Edit`
    * `Edited`
    * `Content.edited`
    * `Edit.apply`

  Content may be changed after it was made.  A new value is
  not checked the way it is when content is made: it only
  matters when the content is rendered.  An edit can be
  refused, and then it mostly has no effect.
-/

------------------------------------------------------------
-- Edits
------------------------------------------------------------

namespace CypherAssembly

/- A change of content. -/
inductive Edit where
  | assign (field : String) (v : Value)
  | hide (v : Value)
  | provide (v : Value)
  | redirect (v : Value)
  | stopTracking
  | withLength (least most : Value)
deriving Repr

/-
  The field that an edit sets, if it sets one.  What content
  has in reserve is set like a field.
-/
def Edit.field? : Edit → Option String
  | assign field _ => some field
  | hide _ => some "__hidden__"
  | provide _ => some "__extra__"
  | redirect _ => some "__setters__"
  | stopTracking => some "__tracking__"
  | withLength _ _ => none

/-
  Content after an edit.  An edit may be refused although it
  had its effect.
-/
structure Edited where
  content : Content
  refusal : Option Refusal := none

namespace Edited

/- The outcome of an edit that has no effect if refused. -/
def ofResult
    (before : Content) : Except Refusal Content → Edited
  | .ok after => { content := after }
  | .error r =>
      { content := before
        refusal := some r }

end Edited

namespace Content

/- Whether an edit of a field would be left untracked. -/
def isUntracked
    (field : String) : Content → Bool
  | refilled r =>
      !r.reserve.isTracking &&
        r.kind.checkedFields.contains field
  | _ => false

/-
  Content after a change of its reserve, which no content
  has that is only a value.
-/
def reserveEdited
    (change : Reserve → Reserve) :
    Content → Except Refusal Content
  | bare v => .error (.fixedField (.value v.kind) "reserve")
  | c => .ok (c.withReserve change)

/- The problem with setting a field of content. -/
def settingProblem?
    (field : String) : Content → Option Problem
  | refilled r =>
      r.reserve.settingProblem? r.kind.checkedFields field
  | _ => none

/- Content after an edit, provided that it can be set. -/
def change
    (c : Content) : Edit → Except Refusal Content
  | .assign field v => c.assign field v
  | .hide v =>
      c.reserveEdited fun r => { r with hidden := v }
  | .provide v =>
      c.reserveEdited fun r => { r with extra := v }
  | .redirect v =>
      c.reserveEdited (Reserve.redirect (some v))
  | .stopTracking =>
      c.reserveEdited fun r => { r with isTracking := false }
  | .withLength least most => c.withLength least most

/- Content after an edit that can be refused. -/
def edited
    (c : Content)
    (e : Edit) : Except Refusal Content :=
  match e.field?.bind c.settingProblem? with
  | some problem => .error (.ofProblem problem)
  | none => c.change e

end Content

/-
  The outcome of an edit.  A field is set before the failure
  to keep track of it shows.
-/
def Edit.apply
    (c : Content)
    (e : Edit) : Edited :=
  let result := Edited.ofResult c (c.edited e)
  match e with
  | assign field _ =>
      if result.refusal.isNone && c.isUntracked field then
        { result with
          refusal := some (.fixedField c.kind field) }
      else
        result
  | _ => result

end CypherAssembly
