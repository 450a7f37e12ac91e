import CypherAssembly.Content
import CypherAssembly.Refusal

/-
  Gathering text from content.

  Key definitions include:
    * `Gathered`
    * `renderOne`
    * `compose`
    * `concat`
    * `Attempt`
    * `Attempt.joining`
    * `Attempt.inOrder`
    * `Attempt.renderOne`
    * `Attempt.compose`
    * `resolve`
    * `resolveAll`

  Gathering goes on past faults.  Content that fails gives
  the empty text, and its fault is noted with the spot of
  the content.  It can be broken off when it is given
  something that is no pattern, or when there is a problem
  to note at something that is no spot.
-/

------------------------------------------------------------
-- Rendering Content in Place
------------------------------------------------------------

namespace CypherAssembly

/- A result together with the faults met on the way. -/
structure Gathered (A : Type) where
  value : A
  faults : List Fault
deriving Repr

/- The text of one piece of content at its spot. -/
def renderOne
    (spot : Spot)
    (c : Content) : Gathered String :=
  match c.render with
  | .ok text =>
      { value := text
        faults := [] }
  | .error fault =>
      { value := ""
        faults := [fault.placed c.kind spot] }

/- The texts of content, the first one at `start`. -/
def composeFrom
    (clause : String)
    (start : Int) :
    List Content → Gathered (List String)
  | [] =>
      { value := []
        faults := [] }
  | c :: rest =>
      let first := renderOne (.inClause clause start) c
      let others := composeFrom clause (start + 1) rest
      { value := first.value :: others.value
        faults := first.faults ++ others.faults }

/- The texts of content, one for each piece. -/
def compose
    (clause : String)
    (given : List Content) : Gathered (List String) :=
  composeFrom clause 0 given

/- The texts of content, with nothing between them. -/
def concat
    (clause : String)
    (given : List Content) : Gathered String :=
  let texts := compose clause given
  { value := String.join texts.value
    faults := texts.faults }

end CypherAssembly

------------------------------------------------------------
-- Attempts
------------------------------------------------------------

namespace CypherAssembly

/-
  A result or a refusal, together with the faults met up to
  that point.
-/
structure Attempt (A : Type) where
  outcome : Except Refusal A
  faults : List Fault

namespace Attempt

variable {A B : Type}

/- An attempt that came to its end. -/
def ofGathered
    (g : Gathered A) : Attempt A :=
  { outcome := .ok g.value
    faults := g.faults }

/- An attempt that was broken off before anything was met. -/
def refused
    (r : Refusal) : Attempt A :=
  { outcome := .error r
    faults := [] }

/- Do something with the result, if there is one. -/
def map
    (f : A → B)
    (a : Attempt A) : Attempt B :=
  { outcome := a.outcome.map f
    faults := a.faults }

/-
  The same attempt, but refused if one of the pieces that
  were put together is no text.
-/
def joining
    (pieces : List Content)
    (a : Attempt A) : Attempt A :=
  match a.outcome, pieces.findSome? Content.foreign? with
  | .ok _, some v =>
      { outcome := .error (.notJoined v.kind)
        faults := a.faults }
  | _, _ => a

/-
  Attempts one after the other, counted from `start`.  The
  first refusal is the last thing that happens.
-/
def inOrder
    (attempt : Int → A → Attempt B)
    (start : Int) : List A → Attempt (List B)
  | [] =>
      { outcome := .ok []
        faults := [] }
  | a :: rest =>
      let first := attempt start a
      match first.outcome with
      | .error r =>
          { outcome := .error r
            faults := first.faults }
      | .ok b =>
          let others := inOrder attempt (start + 1) rest
          { outcome := others.outcome.map (b :: ·)
            faults := first.faults ++ others.faults }

end Attempt

end CypherAssembly

------------------------------------------------------------
-- Rendering Content Anywhere
------------------------------------------------------------

namespace CypherAssembly

/- A clause as somebody calls it. -/
def Spot.clauseOf
    (clause : Value) : Checked (Option String) :=
  Field.inField "clause"
    (Field.orNothing Field.text? clause)

/- A spot in such a clause. -/
def Spot.checked
    (clause position : Value) : Checked Spot :=
  let position :=
    Field.inField "item_index"
      (Field.orNothing Field.number? position)
  ((clauseOf clause).and position).map fun r =>
    { clause := r.1
      position := r.2 }

namespace Attempt

/-
  The text of one piece of content.  Whether there is such a
  spot matters only if there is a problem to place there.
-/
def renderOne
    (spot : Checked Spot)
    (c : Content) : Attempt String :=
  match spot, c.render with
  | .ok spot, _ => ofGathered (CypherAssembly.renderOne spot c)
  | .error _, .ok text =>
      { outcome := .ok text
        faults := [] }
  | .error faults, .error (.outside _) =>
      refused (.fields faults)
  | .error _, .error fault =>
      { outcome := .ok ""
        faults := [fault] }

/- The texts of content, one for each piece. -/
def compose
    (clause : Value)
    (given : List Content) : Attempt (List String) :=
  inOrder
    (fun i c => renderOne (Spot.checked clause (.int i)) c)
    0 given

/- The texts of content, with nothing between them. -/
def concat
    (clause : Value)
    (given : List Content) : Attempt String :=
  ((compose clause given).map String.join).joining given

end Attempt

end CypherAssembly

------------------------------------------------------------
-- Resolving Patterns
------------------------------------------------------------

namespace CypherAssembly

/- The text of a pattern without content for any shape. -/
def unsetPattern
    (spot : Checked Spot) : Attempt String :=
  match spot with
  | .ok spot =>
      { outcome := .ok ""
        faults := [.unsetPattern spot] }
  | .error faults => .refused (.fields faults)

/-
  The text of the preferred shape of a pattern.  No other
  shape is looked at when that one fails.
-/
def resolve
    (spot : Checked Spot)
    (c : Content) : Attempt String :=
  match c.places with
  | .error problem => .refused (.ofProblem problem)
  | .ok places =>
      match places.find? fun place => place.2.isGiven with
      | some place => .renderOne spot place.2
      | none => unsetPattern spot

/-
  The texts of patterns in a clause, with nothing between
  them.
-/
def resolveAll
    (clause : Checked (Option String))
    (given : List Content) : Attempt String :=
  let spot := fun i : Int =>
    clause.map fun name : Option String =>
      ({ clause := name
         position := some i } : Spot)
  (Attempt.inOrder (fun i c => resolve (spot i) c) 0
    given).map String.join

end CypherAssembly
