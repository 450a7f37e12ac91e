import CypherAssembly.Value

/-
  The order of values.

  Key definitions include:
    * `Place`
    * `Value.place?`
    * `Value.same`
    * `Value.exceeds`

  Numbers of all kinds, truth values among them, are
  compared by the places they have on the number line.
  Texts are compared by their first difference, and so are
  lists.  Values of other kinds have no order, nor have
  values of two kinds.
-/

------------------------------------------------------------
-- The Number Line
------------------------------------------------------------

namespace CypherAssembly

/-
  Where a number lies: below or above all finite numbers, at
  `significand * 2 ^ exponent`, or nowhere.
-/
inductive Place where
  | below
  | point (significand exponent : Int)
  | above
  | nowhere
deriving DecidableEq, Repr

namespace Place

/- How far one point lies above another, up to scaling. -/
def distance
    (m e n f : Int) : Int :=
  let low := min e f
  m * (twoTo (e - low).toNat : Nat) -
    n * (twoTo (f - low).toNat : Nat)

/- Holds for the same place on the line. -/
def same : Place → Place → Bool
  | below, below => true
  | point m e, point n f => distance m e n f == 0
  | above, above => true
  | _, _ => false

/- Holds when the first place lies to the left. -/
def less : Place → Place → Bool
  | below, point _ _ => true
  | below, above => true
  | point m e, point n f => distance m e n f < 0
  | point _ _, above => true
  | _, _ => false

end Place

/- The place of a floating-point number. -/
def Binary64.place : Binary64 → Place
  | nan => .nowhere
  | infinite negative => if negative then .below else .above
  | finite negative significand exponent =>
      .point
        (if negative then -significand else significand)
        exponent

/- The place of a value that is a number. -/
def Value.place? : Value → Option Place
  | .bool b => some (.point (if b then 1 else 0) 0)
  | .int n => some (.point n 0)
  | .float x => some x.place
  | _ => none

end CypherAssembly

------------------------------------------------------------
-- Sameness
------------------------------------------------------------

namespace CypherAssembly

mutual

/- Holds for values that mean the same. -/
def Value.same : Value → Value → Bool
  | .null, .null => true
  | .text s, .text t => s == t
  | .list vs, .list ws => Value.sameItems vs ws
  | .map vs, .map ws =>
      vs.length == ws.length && Value.sameEntries vs ws
  | .table vs, .table ws =>
      vs.length == ws.length && Value.samePairs vs ws
  | v, w =>
      match v.place?, w.place? with
      | some a, some b => a.same b
      | _, _ => false

/- Holds for lists of values that mean the same. -/
def Value.sameItems : List Value → List Value → Bool
  | [], [] => true
  | v :: vs, w :: ws => v.same w && Value.sameItems vs ws
  | _, _ => false

/- Holds when every name has the same value in the other. -/
def Value.sameEntries :
    List (String × Value) → List (String × Value) → Bool
  | [], _ => true
  | (name, v) :: rest, ws =>
      (match Record.get? name ws with
        | some w => v.same w
        | none => false) &&
        Value.sameEntries rest ws

/- The same for names that need not be texts. -/
def Value.samePairs :
    List (Value × Value) → List (Value × Value) → Bool
  | [], _ => true
  | (name, v) :: rest, ws =>
      ws.any (fun entry =>
        name.same entry.1 && v.same entry.2) &&
        Value.samePairs rest ws

end

end CypherAssembly

------------------------------------------------------------
-- Order
------------------------------------------------------------

namespace CypherAssembly

/- Two kinds of values between which there is no order. -/
structure Unordered where
  first : ValueKind
  second : ValueKind
deriving DecidableEq, Repr

mutual

/- Whether the first value is greater than the second. -/
def Value.exceeds : Value → Value → Except Unordered Bool
  | .text s, .text t => .ok (decide (t < s))
  | .list vs, .list ws => Value.exceedsItems vs ws
  | v, w =>
      match v.place?, w.place? with
      | some a, some b => .ok (b.less a)
      | _, _ =>
          .error
            { first := v.kind
              second := w.kind }

/- The first items that differ decide, then the lengths. -/
def Value.exceedsItems :
    List Value → List Value → Except Unordered Bool
  | [], _ => .ok false
  | _ :: _, [] => .ok true
  | v :: vs, w :: ws =>
      if v.same w then Value.exceedsItems vs ws
      else v.exceeds w

end

end CypherAssembly
