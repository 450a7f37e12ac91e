import CypherAssembly.Proofs.Clause.Broken

/-
  Content on offer, and the clauses that it breaks off.

  Key definitions include:
    * `Content.IsOffered`

  Key theorems include:
    * `Content.IsOffered.patternRefusal?_eq_none_iff`
    * `Clause.breakOff?_eq_none_iff_of_offered`

  Content of this library either fails or has a text, and it
  can always be asked whether it is empty.  So no clause is
  broken off by it, except that patterns have to be patterns:
  content of any other kind has no places for shapes.
-/

------------------------------------------------------------
-- Content on Offer
------------------------------------------------------------

namespace CypherAssembly

namespace Content

/-
  Holds for the content that there is, for values in its
  place, for content that only fails, and for content of
  somebody else that keeps to texts.
-/
inductive IsOffered : Content → Prop where
  | bare (v : Value) : IsOffered (.bare v)
  | node (n : Node) : IsOffered (.node n)
  | relationship (r : Relationship) :
      IsOffered (.relationship r)
  | onlyNode
      (n : Content)
      (hNode : IsOffered n) :
      IsOffered (.onlyNode n)
  | partialPath
      (start link : Content)
      (hStart : IsOffered start)
      (hLink : IsOffered link) :
      IsOffered (.partialPath start link)
  | fullPath
      (start link finish : Content)
      (hStart : IsOffered start)
      (hLink : IsOffered link)
      (hFinish : IsOffered finish) :
      IsOffered (.fullPath start link finish)
  | pattern
      (single partly fully : Content)
      (hSingle : IsOffered single)
      (hPartly : IsOffered partly)
      (hFully : IsOffered fully) :
      IsOffered (.pattern single partly fully)
  | condition (c : Condition) : IsOffered (.condition c)
  | projection (p : Projection) : IsOffered (.projection p)
  | targets (t : Targets) : IsOffered (.targets t)
  | sortOrder (o : SortOrder) : IsOffered (.sortOrder o)
  | failing (f : Fault) : IsOffered (.failing f)
  | fixed (text : String) : IsOffered (.fixed (.text text))
  | described
      (text : String)
      (isEmpty : Value) :
      IsOffered (.described (.text text) isEmpty)

/- The shape that a pattern prefers is one of its three. -/
theorem eq_of_preferred
    {single partly fully shape : Content}
    (hShape :
      (pattern single partly fully).preferred? =
        some shape) :
    shape = single ∨ shape = partly ∨ shape = fully := by
  simp only [preferred?, knownPlaces, places,
    Except.toOption, Option.getD_some] at hShape
  rcases Option.map_eq_some_iff.mp hShape with
    ⟨place, hPlace, rfl⟩
  have hMem := List.mem_of_find?_eq_some hPlace
  simp only [List.mem_cons, List.not_mem_nil, or_false]
    at hMem
  rcases hMem with rfl | rfl | rfl <;> simp

namespace IsOffered

variable {c : Content}

/- No value stands in the place of its text. -/
theorem foreign?_eq_none
    (hOffered : c.IsOffered) :
    c.foreign? = none := by
  induction hOffered with
  | onlyNode n hNode ih => exact ih
  | _ => rfl

/- It can always be asked whether it is empty. -/
theorem obstacle?_eq_none
    (hOffered : c.IsOffered) :
    c.obstacle? = none := by
  cases hOffered <;> rfl

/- Patterns have places for shapes, and nothing else has. -/
theorem patternRefusal?_eq_none_iff
    (hOffered : c.IsOffered) :
    c.patternRefusal? = none ↔ c.kind = .pattern := by
  cases hOffered with
  | pattern single partly fully _ _ _ =>
      exact ⟨fun _ => rfl, fun _ => rfl⟩
  | projection p =>
      constructor
      · intro hNone
        cases hNone
      · intro hKind
        simp only [kind] at hKind
        cases hKindOf : p.kind <;>
          simp [hKindOf, ProjectionKind.contentKind] at hKind
  | _ =>
      constructor
      · intro hNone
        cases hNone
      · intro hKind
        cases hKind

/- The shape that it prefers is on offer, too. -/
theorem of_preferred
    {shape : Content}
    (hOffered : c.IsOffered)
    (hShape : c.preferred? = some shape) :
    shape.IsOffered := by
  cases hOffered with
  | pattern single partly fully hSingle hPartly hFully =>
      rcases eq_of_preferred hShape with rfl | rfl | rfl
      · exact hSingle
      · exact hPartly
      · exact hFully
  | _ => cases hShape

end IsOffered

end Content

end CypherAssembly

------------------------------------------------------------
-- Clauses of Such Content
------------------------------------------------------------

namespace CypherAssembly

namespace Clause

/- No piece is in the place of a text. -/
theorem foreign?_of_offered
    (c : Clause)
    (hOffered : ∀ a ∈ c.arguments, a.IsOffered) :
    c.foreign? = none := by
  rw [foreign?, List.findSome?_eq_none_iff]
  intro piece hPiece
  rcases List.mem_filterMap.mp hPiece with
    ⟨a, hMem, hRendered⟩
  have hArgument := hOffered a hMem
  cases c with
  | patterns kind given =>
      exact (hArgument.of_preferred hRendered).foreign?_eq_none
  | _ =>
      cases hRendered
      exact hArgument.foreign?_eq_none

/-
  Of all clauses, those made of patterns are broken off by
  content on offer: by content that is no pattern.
-/
theorem breakOff?_eq_none_iff_of_offered
    (c : Clause)
    (hOffered : ∀ a ∈ c.arguments, a.IsOffered) :
    c.breakOff? = none ↔
      ∀ kind given,
        c = .patterns kind given →
          ∀ a ∈ given, a.kind = .pattern := by
  have hForeign := c.foreign?_of_offered hOffered
  have hObstacle :
      c.breakOff? = none ↔
        c.isRejected = true ∨
          ∀ a ∈ c.arguments, c.obstacle? a = none := by
    unfold breakOff?
    rw [hForeign, ← List.findSome?_eq_none_iff]
    cases c.isRejected <;> simp
  rw [hObstacle]
  cases c with
  | patterns kind given =>
      constructor
      · rintro hGoesOn kind' given' hEq a hMem
        cases hEq
        rcases hGoesOn with hRejected | hNone
        · rw [List.isEmpty_iff.mp hRejected] at hMem
          cases hMem
        · rw [← (hOffered a hMem).patternRefusal?_eq_none_iff]
          exact hNone a hMem
      · intro hPatterns
        right
        intro a hMem
        have hKind := hPatterns kind given rfl a hMem
        exact
          (hOffered a hMem).patternRefusal?_eq_none_iff.mpr
            hKind
  | _ =>
      constructor
      · intro _ kind given hEq
        cases hEq
      · intro _
        right
        intro a hMem
        simp [obstacle?, (hOffered a hMem).obstacle?_eq_none]

end Clause

end CypherAssembly
