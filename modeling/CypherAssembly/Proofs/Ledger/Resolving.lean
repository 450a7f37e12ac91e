import CypherAssembly.Proofs.Ledger.Composing

/-
  Resolving with a ledger at hand.

  Key definitions include:
    * `Shape.among`
    * `Shape.places`
    * `Content.HasShapes`

  Key theorems include:
    * `Content.HasShapes.populated_eq`
    * `Task.attempt_resolve`
    * `Ledger.resolving_never_falls_back`

  What becomes of a pattern is decided by the first shape
  that it has content for.  Neither a failure of that shape
  nor the content of those behind it changes the choice.
-/

------------------------------------------------------------
-- Shapes of a Pattern
------------------------------------------------------------

namespace CypherAssembly

/- The content of a shape, out of one piece for each. -/
def Shape.among
    (single partly fully : Content) : Shape → Content
  | onlyNode => single
  | partialPath => partly
  | fullPath => fully

/- The places that a pattern keeps for its shapes. -/
def Shape.places
    (single partly fully : Content) :
    List (Shape × Content) :=
  all.map fun s => (s, s.among single partly fully)

namespace Content

/-
  Holds for a pattern and what it has in the places of its
  three shapes, whatever else was put into it.
-/
inductive HasShapes :
    Content → Content → Content → Content → Prop where
  | pattern
      (single partly fully : Content) :
      HasShapes (.pattern single partly fully)
        single partly fully
  | marked
      (c : Content)
      (marks : Record Value)
      (single partly fully : Content)
      (hShapes : HasShapes c single partly fully) :
      HasShapes (.marked c marks) single partly fully
  | refilled
      (r : Refilled)
      (single partly fully : Content)
      (hKind : r.kind = .pattern)
      (hPlaces :
        placesIn r = .ok (Shape.places single partly fully)) :
      HasShapes (.refilled r) single partly fully

namespace HasShapes

variable {c single partly fully : Content}

theorem places_eq
    (hShapes : c.HasShapes single partly fully) :
    c.places = .ok (Shape.places single partly fully) := by
  induction hShapes with
  | pattern single partly fully => rfl
  | marked c marks single partly fully hShapes ih =>
      rw [places, ih]
  | refilled r single partly fully hKind hPlaces =>
      exact hPlaces

theorem knownPlaces_eq
    (hShapes : c.HasShapes single partly fully) :
    c.knownPlaces = Shape.places single partly fully := by
  rw [knownPlaces, hShapes.places_eq]
  rfl

/- The shapes that there is content for, in order. -/
theorem populated_eq
    (hShapes : c.HasShapes single partly fully) :
    c.populated =
      Shape.all.filter fun s =>
        (s.among single partly fully).isGiven := by
  rw [populated, hShapes.knownPlaces_eq, Shape.places,
    List.filter_map, List.map_map]
  exact List.map_id _

/- A pattern is empty if there is content for no shape. -/
theorem isEmpty?_eq
    (hShapes : c.HasShapes single partly fully) :
    c.isEmpty? = some c.populated.isEmpty := by
  induction hShapes with
  | pattern single partly fully => rfl
  | marked c marks single partly fully hShapes ih =>
      have hMarked : HasShapes (.marked c marks) _ _ _ :=
        .marked c marks single partly fully hShapes
      rw [hMarked.populated_eq, ← hShapes.populated_eq, ← ih]
      rcases Option.map_eq_some_iff.mp ih with
        ⟨v, hEmptiness, _⟩
      rw [isEmpty?, isEmpty?, emptiness?, hEmptiness]
  | refilled r single partly fully hKind hPlaces =>
      have hEmptiness :
          emptinessIn r =
            .ok (some (.bool
              (Content.refilled r).populated.isEmpty)) := by
        rw [emptinessIn, hKind, hPlaces]
      rw [isEmpty?, emptiness?, hEmptiness]
      rfl

theorem isEmpty?_iff
    (hShapes : c.HasShapes single partly fully) :
    c.isEmpty? = some true ↔ c.populated.head? = none := by
  rw [hShapes.isEmpty?_eq, Option.some_inj,
    List.isEmpty_iff, List.head?_eq_none_iff]

/- The first of those shapes is the preferred one. -/
theorem preferred?_eq
    (hShapes : c.HasShapes single partly fully) :
    c.preferred? =
      c.populated.head?.map
        (Shape.among single partly fully) := by
  rw [preferred?, hShapes.populated_eq,
    hShapes.knownPlaces_eq, Shape.places, List.find?_map,
    Option.map_map, List.head?_filter]
  rfl

/- A single node is preferred if there is one. -/
theorem preferred?_of_single
    (hShapes : c.HasShapes single partly fully)
    (hGiven : single.isGiven = true) :
    c.preferred? = some single := by
  rw [hShapes.preferred?_eq, hShapes.populated_eq]
  simp [Shape.all, Shape.among, hGiven]

/- Next comes a path without a known end. -/
theorem preferred?_of_partly
    (hShapes : c.HasShapes single partly fully)
    (hNone : single.isGiven = false)
    (hGiven : partly.isGiven = true) :
    c.preferred? = some partly := by
  rw [hShapes.preferred?_eq, hShapes.populated_eq]
  simp [Shape.all, Shape.among, hNone, hGiven]

end HasShapes

end Content

end CypherAssembly

------------------------------------------------------------
-- Resolving Tasks
------------------------------------------------------------

namespace CypherAssembly

/- Content at a known spot gives its entry and its fault. -/
theorem Attempt.renderOne_entry
    (clause : String)
    (index : Int)
    (c : Content) :
    (renderOne (Spot.checked (.text clause) (.int index))
        c).map c.answer =
      { outcome := .ok c.entry
        faults :=
          (c.faultAt? (.inClause clause index)).toList } := by
  have hPlaced :
      renderOne (Spot.checked (.text clause) (.int index)) c =
        ofGathered
          (CypherAssembly.renderOne
            (.inClause clause index) c) := rfl
  rw [hPlaced, ofGathered, map, value_renderOne,
    faults_renderOne, ← c.answer_textOrEmpty]
  rfl

/- Resolving renders the preferred shape, if there is one. -/
theorem Task.attempt_resolve
    {c single partly fully : Content}
    (hShapes : c.HasShapes single partly fully)
    (clause : String)
    (index : Int) :
    (Task.resolve (.text clause) (.int index) c).attempt =
      match c.preferred? with
      | some shape =>
          { outcome := .ok shape.entry
            faults :=
              (shape.faultAt? (.inClause clause index)).toList }
      | none =>
          { outcome := .ok (.text "")
            faults :=
              [.unsetPattern (.inClause clause index)] } := by
  have hAttempt :
      (Task.resolve (.text clause) (.int index) c).attempt =
        (CypherAssembly.resolve
          (Spot.checked (.text clause) (.int index)) c).map
            (c.preferred?.getD .nothing).answer := rfl
  rw [hAttempt, CypherAssembly.resolve, hShapes.places_eq,
    Content.preferred?, hShapes.knownPlaces_eq]
  simp only
  cases List.find? _ _ with
  | some place =>
      exact Attempt.renderOne_entry clause index place.2
  | none => rfl

/- Patterns that prefer the same shape are resolved alike. -/
theorem Task.attempt_resolve_congr
    {c single partly fully : Content}
    {d single' partly' fully' : Content}
    (hShapes : c.HasShapes single partly fully)
    (hOthers : d.HasShapes single' partly' fully')
    (hSame : d.preferred? = c.preferred?)
    (clause : String)
    (index : Int) :
    (Task.resolve (.text clause) (.int index) d).attempt =
      (Task.resolve (.text clause) (.int index) c).attempt := by
  rw [attempt_resolve hShapes, attempt_resolve hOthers, hSame]

/-
  The fault of content is that a pattern is empty only if
  the content says so itself.
-/
theorem Content.faultAt?_emptyPattern
    (spot : Spot)
    (c : Content) :
    (∃ f ∈ (c.faultAt? spot).toList,
        f.kind? = some .emptyPattern) ↔
      ∃ f, c.render = .error f ∧
        f.kind? = some .emptyPattern := by
  rcases c.faultAt?_cases with
    ⟨text, hText, hNone⟩ | ⟨problem, hFails, hFault⟩ |
      ⟨f, hFails, _, hFault⟩
  · simp [hText, hNone]
  · rw [hFails, hFault]
    simp [Fault.kind?]
  · rw [hFails, hFault]
    simp

namespace Ledger

/-
  A pattern is resolved by the first of its shapes that
  there is content for, and by no other.  Without any, the
  pattern is empty, and that it is empty is noted.  With
  one, its text is the answer, or its failure is all that is
  noted, whatever there is behind it: that a pattern is
  empty is noted then only if the content says so itself.
-/
theorem resolving_never_falls_back
    (l : Ledger)
    (clause : String)
    (index : Int)
    {c single partly fully : Content}
    (hShapes : c.HasShapes single partly fully) :
    let shape := Shape.among single partly fully
    let resolving := fun d : Content =>
      l.work (.resolve (.text clause) (.int index) d)
    let done := resolving c
    c.populated =
        Shape.all.filter (fun s => (shape s).isGiven) ∧
      c.isEmpty? = some c.populated.isEmpty ∧
      (c.isEmpty? = some true →
        done.2.outcome = .ok (.text "") ∧
          done.1.faults =
            l.faults ++
              [.unsetPattern (.inClause clause index)]) ∧
      (∀ s,
        c.populated.head? = some s →
          ∃ v fault?,
            (shape s).IsComposed clause index v fault? ∧
              done.2.outcome = .ok v ∧
              done.1.faults = l.faults ++ fault?.toList) ∧
      ((∃ f ∈ done.2.faults, f.kind? = some .emptyPattern) ↔
        c.isEmpty? = some true ∨
          ∃ s f,
            c.populated.head? = some s ∧
              (shape s).render = .error f ∧
              f.kind? = some .emptyPattern) ∧
      (∀ d partly' fully',
        single.isGiven = true →
          d.HasShapes single partly' fully' →
            resolving d = done) ∧
      (∀ d fully',
        partly.isGiven = true →
          d.HasShapes single partly fully' →
            resolving d = done) := by
  intro shape resolving done
  have hAttempt : done.2 = _ :=
    Task.attempt_resolve hShapes clause index
  have hFaults :
      done.1.faults = l.faults ++ done.2.faults := rfl
  have hAlike :
      ∀ d partly' fully',
        d.HasShapes single partly' fully' →
          d.preferred? = c.preferred? →
            resolving d = done := by
    intro d partly' fully' hOthers hSame
    have hTask :=
      Task.attempt_resolve_congr hShapes hOthers hSame
        clause index
    simp only [done, resolving, work, hTask]
    rfl
  rw [hShapes.preferred?_eq] at hAttempt
  refine ⟨hShapes.populated_eq, hShapes.isEmpty?_eq,
    ?_, ?_, ?_, ?_, ?_⟩
  · intro hIsEmpty
    rw [hShapes.isEmpty?_iff.mp hIsEmpty] at hAttempt
    rw [hFaults, hAttempt]
    exact ⟨rfl, rfl⟩
  · intro s hHead
    rw [hHead] at hAttempt
    rw [hFaults, hAttempt]
    exact ⟨_, _, (shape s).isComposed clause index, rfl, rfl⟩
  · rw [hShapes.isEmpty?_iff, hAttempt]
    cases c.populated.head? with
    | none => simp [Fault.kind?]
    | some s =>
        simp only [Option.map_some,
          Content.faultAt?_emptyPattern]
        simp [shape]
  · intro d partly' fully' hGiven hOthers
    apply hAlike d partly' fully' hOthers
    rw [hOthers.preferred?_of_single hGiven,
      hShapes.preferred?_of_single hGiven]
  · intro d fully' hGiven hOthers
    apply hAlike d partly fully' hOthers
    cases hSingle : single.isGiven with
    | true =>
        rw [hOthers.preferred?_of_single hSingle,
          hShapes.preferred?_of_single hSingle]
    | false =>
        rw [hOthers.preferred?_of_partly hSingle hGiven,
          hShapes.preferred?_of_partly hSingle hGiven]

/- A fault of content that takes itself for a pattern. -/
def goneFault : Fault :=
  .reported .emptyPattern "gone" .unknown

/- A pattern whose only shape has that fault. -/
def gonePattern : Content :=
  .pattern (.failing goneFault) .nothing .nothing

/- A pattern without content for any shape. -/
def hollowPattern : Content :=
  .pattern .nothing .nothing .nothing

/- Nothing is noted for the text behind the gone content. -/
theorem resolving_of_gonePattern :
    let resolving := fun d : Content =>
      fresh.work (.resolve (.text "MATCH") (.int 0) d)
    (resolving hollowPattern).1.faults =
        [.unsetPattern (.inClause "MATCH" 0)] ∧
      (resolving gonePattern).1.faults = [goneFault] ∧
      resolving
          (.pattern (.failing goneFault) (.fixed (.text "()"))
            .nothing) =
        resolving gonePattern := by
  intro resolving
  rcases resolving_never_falls_back fresh "MATCH" 0
      (.pattern .nothing .nothing .nothing) with
    ⟨_, _, hHollow, _⟩
  rcases resolving_never_falls_back fresh "MATCH" 0
      (.pattern (.failing goneFault) .nothing .nothing) with
    ⟨_, _, _, _, _, hReplaced, _⟩
  exact
    ⟨(hHollow rfl).2, rfl,
      hReplaced _ (.fixed (.text "()")) .nothing rfl
        (.pattern _ _ _)⟩

/-
  Content can report that a pattern is empty although the
  pattern that it is the shape of is not.
-/
theorem gonePattern_is_not_empty :
    ¬ ((∃ f ∈
          (fresh.work
            (.resolve (.text "MATCH") (.int 0)
              gonePattern)).1.faults,
        f.kind? = some .emptyPattern) ↔
      gonePattern.isEmpty? = some true) := by
  intro hIff
  have hEmpty : gonePattern.isEmpty? = some true :=
    hIff.mp ⟨goneFault, List.mem_singleton.mpr rfl, rfl⟩
  cases hEmpty

end Ledger

end CypherAssembly
