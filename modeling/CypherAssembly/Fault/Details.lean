import CypherAssembly.Moment

/-
  Where a fault occurred.

  Key definitions include:
    * `Spot`
    * `Placement`
    * `Details`
    * `Details.unknown`
    * `Details.inClause`
-/

------------------------------------------------------------
-- Details
------------------------------------------------------------

namespace CypherAssembly

/-
  A clause and a position in it, each as far as it is known.
-/
structure Spot where
  clause : Option String
  position : Option Int
deriving DecidableEq, Repr

/- A position in a clause with a name. -/
def Spot.inClause
    (clause : String)
    (position : Int) : Spot :=
  { clause := some clause
    position := some position }

/-
  The clause a fault belongs to, and the position and kind
  of the content at fault, each as far as it is known.
-/
structure Placement where
  clause : Option String
  position : Option Int
  contentKind : Option String
deriving DecidableEq, Repr

/-
  The part of the library that noticed a fault, what it was
  doing, and the clause if there is one.  The moment is kept
  only if the fault was reported with one.
-/
structure Details where
  source : String
  operation : String
  placement : Option Placement
  moment : Option Moment
deriving DecidableEq, Repr

/- The placement of content of a kind at a spot. -/
def Placement.ofSpot
    (spot : Spot)
    (contentKind : Option String) : Placement :=
  { clause := spot.clause
    position := spot.position
    contentKind }

namespace Details

/- Details of a fault that nobody described. -/
def unknown : Details :=
  { source := "unknown"
    operation := "unknown"
    placement := none
    moment := none }

/- Details of a fault that concerns a clause as a whole. -/
def inClause
    (source operation clause : String) : Details :=
  { source
    operation
    placement := some
      { clause := some clause
        position := none
        contentKind := none }
    moment := none }

end Details

end CypherAssembly
