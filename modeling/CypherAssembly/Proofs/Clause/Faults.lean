import CypherAssembly.Proofs.Clause.Fragment

/-
  The faults that a clause meets.

  Key definitions include:
    * `Content.faultAt?`
    * `Content.patternFaultAt?`
    * `Clause.arguments`
    * `Clause.argumentFault?`
    * `Clause.guardFault`
    * `Clause.faults`
    * `Fault.spot?`
    * `Clause.Notes`

  Key theorems include:
    * `faults_composeFrom`
    * `resolveAll_faults`
    * `Clause.exists_render_of_no_faults`
    * `Clause.spot?_guardFault`
    * `Clause.notes_argumentFault?`

  The faults are said here without following the steps in
  which a clause is assembled.  A request with nothing to say
  has one fault.  Any other request has one fault for each
  argument that fails, in the order of the arguments.
-/

------------------------------------------------------------
-- Faults of Content
------------------------------------------------------------

namespace CypherAssembly

namespace Content

/-
  The fault of content at a spot, if it cannot be rendered.
  A problem from outside is wrapped there, and any other
  fault is left as it is.
-/
def faultAt?
    (spot : Spot)
    (c : Content) : Option Fault :=
  match c.render with
  | .ok _ => none
  | .error (.outside problem) =>
      some (.wrapped problem c.kind spot)
  | .error fault => some fault

/- The fault of the first shape that a pattern has. -/
def patternFaultAt?
    (spot : Spot)
    (c : Content) : Option Fault :=
  match c.preferred? with
  | some shape => shape.faultAt? spot
  | none => some (.unsetPattern spot)

end Content

end CypherAssembly

------------------------------------------------------------
-- Faults of Clauses
------------------------------------------------------------

namespace CypherAssembly

namespace Clause

/- The content that a clause is made of. -/
def arguments : Clause → List Content
  | patterns _ given => given
  | conditions given => given
  | projections _ given => given
  | delete _ target => [target]
  | remove target => [target]
  | orderBy order => [order]
  | _ => []

/- What a clause renders for an argument, if anything. -/
def rendered?
    (c : Clause)
    (argument : Content) : Option Content :=
  match c with
  | patterns _ _ => argument.preferred?
  | _ => some argument

/- The fault of an argument at its position, if it has one. -/
def argumentFault?
    (c : Clause)
    (position : Nat)
    (argument : Content) : Option Fault :=
  let spot := Spot.inClause c.keyword.text position
  match c with
  | patterns _ _ => argument.patternFaultAt? spot
  | _ => argument.faultAt? spot

/- The fault of a request that there is nothing to say for. -/
def guardFault : Clause → Fault
  | patterns kind _ => .emptyPatterns kind.keyword
  | page number _ =>
      .pageOutOfRange
        (if number.isBelowOne then .page else .pageSize)
  | c => .emptyClause c.keyword

/- The faults of all arguments that fail, in order. -/
def argumentFaults
    (c : Clause) : List Fault :=
  c.arguments.zipIdx.filterMap fun a =>
    c.argumentFault? a.2 a.1

/- The faults of a clause. -/
def faults
    (c : Clause) : List Fault :=
  if c.isRejected then [c.guardFault] else c.argumentFaults

/- A single argument has at most one fault. -/
theorem filterMap_zipIdx_singleton
    (fault? : Nat → Content → Option Fault)
    (argument : Content) :
    ([argument].zipIdx.filterMap fun a => fault? a.2 a.1) =
      (fault? 0 argument).toList := by
  rw [List.zipIdx_cons, List.filterMap_cons]
  cases fault? 0 argument <;> rfl

theorem argumentFaults_of_single
    (c : Clause)
    (argument : Content)
    (hSingle : c.arguments = [argument]) :
    c.argumentFaults =
      (c.argumentFault? 0 argument).toList := by
  rw [argumentFaults, hSingle]
  exact filterMap_zipIdx_singleton c.argumentFault? argument

end Clause

end CypherAssembly

------------------------------------------------------------
-- Gathered Faults
------------------------------------------------------------

namespace CypherAssembly

/- One piece of content is gathered with its fault. -/
theorem faults_renderOne
    (spot : Spot)
    (c : Content) :
    (renderOne spot c).faults = (c.faultAt? spot).toList := by
  unfold renderOne Content.faultAt?
  cases c.render with
  | ok text => rfl
  | error fault => cases fault <;> rfl

/- Many pieces are gathered with their faults, in order. -/
theorem faults_composeFrom
    (clause : String)
    (start : Nat)
    (given : List Content) :
    (composeFrom clause start given).faults =
      (given.zipIdx start).filterMap fun a =>
        a.1.faultAt? (.inClause clause a.2) := by
  induction given generalizing start with
  | nil => rfl
  | cons c rest ih =>
      have hRest := ih (start + 1)
      rw [Int.natCast_succ] at hRest
      rw [composeFrom, List.zipIdx_cons, List.filterMap_cons,
        faults_renderOne, hRest]
      cases c.faultAt? (.inClause clause start) with
      | none => rfl
      | some fault => rfl

/- Faults of pieces side by side. -/
theorem faults_concat
    (clause : String)
    (given : List Content) :
    (concat clause given).faults =
      given.zipIdx.filterMap fun a =>
        a.1.faultAt? (.inClause clause a.2) :=
  faults_composeFrom clause 0 given

/-
  If single attempts that come to an end have faults given
  by `fault?`, so do attempts in order.
-/
theorem Attempt.inOrder_faults
    {A B : Type}
    (attempt : Int → A → Attempt B)
    (fault? : Nat → A → Option Fault)
    (hEach : ∀ (i : Nat) a b,
      (attempt i a).outcome = .ok b →
        (attempt i a).faults = (fault? i a).toList)
    (start : Nat)
    (given : List A)
    (results : List B)
    (hOk :
      (inOrder attempt start given).outcome = .ok results) :
    (inOrder attempt start given).faults =
      (given.zipIdx start).filterMap fun a =>
        fault? a.2 a.1 := by
  induction given generalizing start results with
  | nil => rfl
  | cons a rest ih =>
      unfold inOrder at hOk ⊢
      rw [List.zipIdx_cons, List.filterMap_cons]
      cases hFirst : (attempt start a).outcome with
      | error r => simp [hFirst] at hOk
      | ok b =>
          simp only [hFirst] at hOk ⊢
          rcases exists_of_map_ok hOk with ⟨bs, hRest, _⟩
          rw [← Int.natCast_succ] at hRest ⊢
          rw [ih (start + 1) bs hRest,
            hEach start a b hFirst]
          cases fault? start a with
          | none => rfl
          | some fault => rfl

/- A pattern that is not refused has its fault. -/
theorem resolve_faults
    (spot : Spot)
    (c : Content)
    (text : String)
    (hOk : (resolve (.ok spot) c).outcome = .ok text) :
    (resolve (.ok spot) c).faults =
      (c.patternFaultAt? spot).toList := by
  unfold resolve at hOk ⊢
  unfold Content.patternFaultAt? Content.preferred?
    Content.knownPlaces
  cases hPlaces : c.places with
  | error problem =>
      simp [hPlaces, Attempt.refused] at hOk
  | ok places =>
      simp only [Except.toOption, Option.getD_some]
      cases places.find? fun p => p.2.isGiven with
      | none => rfl
      | some place => exact faults_renderOne spot place.2

/- Patterns that are not refused have their faults. -/
theorem resolveAll_faults
    (clause : String)
    (given : List Content)
    (text : String)
    (hOk :
      (resolveAll (.ok (some clause)) given).outcome =
        .ok text) :
    (resolveAll (.ok (some clause)) given).faults =
      given.zipIdx.filterMap fun a =>
        a.1.patternFaultAt? (.inClause clause a.2) := by
  unfold resolveAll Attempt.map at hOk ⊢
  rcases exists_of_map_ok hOk with ⟨texts, hTexts, _⟩
  exact
    Attempt.inOrder_faults _
      (fun i c => c.patternFaultAt? (.inClause clause i))
      (fun i c text => resolve_faults _ c text) 0 given texts
      hTexts

end CypherAssembly

------------------------------------------------------------
-- Where Faults Are Noted
------------------------------------------------------------

namespace CypherAssembly

/- A clause as a whole. -/
def Spot.ofClause
    (k : Keyword) : Spot :=
  { clause := some k.text
    position := none }

namespace Fault

/- The clause and the position that a fault is noted with. -/
def spot?
    (f : Fault) : Option Spot :=
  (f.details?.bind (·.placement)).map fun p =>
    { clause := p.clause
      position := p.position }

/- All faults but those from outside have a kind. -/
theorem kind?_ne_none
    (f : Fault)
    (hInside : ∀ problem, f ≠ .outside problem) :
    f.kind? ≠ none := by
  cases f with
  | outside problem => exact absurd rfl (hInside problem)
  | _ => simp [kind?]

/- A fault without a kind is a problem from outside. -/
theorem exists_problem_or_kind?_ne_none
    (f : Fault) :
    (∃ problem, f = .outside problem) ∨ f.kind? ≠ none := by
  by_cases hOutside : ∃ problem, f = .outside problem
  · exact Or.inl hOutside
  · right
    apply f.kind?_ne_none
    exact not_exists.mp hOutside

end Fault

namespace Content

variable {c : Content} {f : Fault}

/- A fault of this library is the same at every spot. -/
theorem faultAt?_of_raised
    (spot : Spot)
    (hFails : c.render = .error f)
    (hKind : f.kind? ≠ none) :
    c.faultAt? spot = some f := by
  unfold faultAt?
  rw [hFails]
  split
  · rename_i hOk
    cases hOk
  · rename_i problem hOutside
    cases hOutside
    exact absurd rfl hKind
  · rename_i other _ hSame
    cases hSame
    rfl

/- The fault of content at a spot is its fault, put there. -/
theorem faultAt?_of_error
    (spot : Spot)
    (hFails : c.render = .error f) :
    c.faultAt? spot = some (f.placed c.kind spot) := by
  unfold faultAt?
  rw [hFails]
  cases f <;> rfl

/- A problem from outside is wrapped for its spot. -/
theorem faultAt?_of_outside
    {problem : Problem}
    (spot : Spot)
    (hFails : c.render = .error (.outside problem)) :
    c.faultAt? spot = some (.wrapped problem c.kind spot) := by
  simp [faultAt?, hFails]

/-
  Content has a text, or a problem from outside, or a fault
  of this library.  That settles its fault at every spot.
-/
theorem faultAt?_cases
    (c : Content) :
    (∃ text,
        c.render = .ok text ∧
          ∀ spot, c.faultAt? spot = none) ∨
      (∃ problem,
        c.render = .error (.outside problem) ∧
          ∀ spot,
            c.faultAt? spot =
              some (.wrapped problem c.kind spot)) ∨
      (∃ f,
        c.render = .error f ∧
          f.kind? ≠ none ∧
          ∀ spot, c.faultAt? spot = some f) := by
  cases hRender : c.render with
  | ok text =>
      left
      refine ⟨text, rfl, ?_⟩
      intro spot
      rw [faultAt?, hRender]
  | error f =>
      rcases f.exists_problem_or_kind?_ne_none with
        ⟨problem, rfl⟩ | hKind
      · exact
          Or.inr (Or.inl
            ⟨problem, rfl, fun spot =>
              faultAt?_of_outside spot hRender⟩)
      · exact
          Or.inr (Or.inr
            ⟨f, rfl, hKind, fun spot =>
              faultAt?_of_raised spot hRender hKind⟩)

end Content

namespace Clause

/-
  What is noted for an argument at its position.  A fault
  that the argument raises is noted as it is.  A problem from
  outside gets the position in the clause, and so does the
  fault of a pattern that has no shape.
-/
inductive Notes
    (c : Clause)
    (position : Nat)
    (argument : Content) : Option Fault → Prop where
  | rendered
      (shape : Content)
      (text : String)
      (hShape : c.rendered? argument = some shape)
      (hText : shape.render = .ok text) :
      Notes c position argument none
  | raised
      (shape : Content)
      (f : Fault)
      (hShape : c.rendered? argument = some shape)
      (hFails : shape.render = .error f)
      (hKind : f.kind? ≠ none) :
      Notes c position argument (some f)
  | wrapped
      (shape : Content)
      (problem : Problem)
      (f : Fault)
      (hShape : c.rendered? argument = some shape)
      (hFails : shape.render = .error (.outside problem))
      (hCause : f.cause? = some problem)
      (hSpot :
        f.spot? =
          some (.inClause c.keyword.text position)) :
      Notes c position argument (some f)
  | unset
      (f : Fault)
      (hShape : c.rendered? argument = none)
      (hKind : f.kind? = some .emptyPattern)
      (hSpot :
        f.spot? =
          some (.inClause c.keyword.text position)) :
      Notes c position argument (some f)

/- The fault of an argument is that of what is rendered. -/
theorem argumentFault?_eq
    (c : Clause)
    (position : Nat)
    (argument : Content) :
    c.argumentFault? position argument =
      match c.rendered? argument with
      | some shape =>
          shape.faultAt? (.inClause c.keyword.text position)
      | none =>
          some
            (.unsetPattern
              (.inClause c.keyword.text position)) := by
  cases c <;> rfl

/- A clause without faults has something to say. -/
theorem isRejected_of_no_faults
    {c : Clause}
    (hClean : c.faults = []) :
    c.isRejected = false := by
  cases hRejected : c.isRejected with
  | true => simp [faults, hRejected] at hClean
  | false => rfl

/- Where there are no faults, all arguments have a text. -/
theorem exists_render_of_no_faults
    {c : Clause}
    {argument : Content}
    (hClean : c.faults = [])
    (hMem : argument ∈ c.arguments) :
    ∃ shape text,
      c.rendered? argument = some shape ∧
        shape.render = .ok text := by
  have hSome := isRejected_of_no_faults hClean
  rw [faults, hSome, if_neg (by simp), argumentFaults,
    List.filterMap_eq_nil_iff] at hClean
  rcases List.mem_iff_getElem?.mp hMem with ⟨i, hPlace⟩
  have hNone :=
    hClean (argument, i)
      (List.mem_zipIdx_iff_getElem?.mpr hPlace)
  rw [argumentFault?_eq] at hNone
  cases hShape : c.rendered? argument with
  | none => simp [hShape] at hNone
  | some shape =>
      simp only [hShape, Content.faultAt?] at hNone
      cases hRender : shape.render with
      | ok text => exact ⟨shape, text, rfl, hRender⟩
      | error fault =>
          rw [hRender] at hNone
          cases fault <;> simp at hNone

theorem notes_argumentFault?
    (c : Clause)
    (position : Nat)
    (argument : Content) :
    c.Notes position argument
      (c.argumentFault? position argument) := by
  rw [argumentFault?_eq]
  cases hShape : c.rendered? argument with
  | none => exact .unset _ hShape rfl rfl
  | some shape =>
      simp only [Content.faultAt?]
      split
      · rename_i text hText
        exact .rendered shape text hShape hText
      · rename_i problem hFails
        exact .wrapped shape problem _ hShape hFails rfl rfl
      · rename_i f hInside hFails
        have hKind : f.kind? ≠ none :=
          f.kind?_ne_none hInside
        exact .raised shape f hShape hFails hKind

/- The guard notes its fault with the clause alone. -/
theorem spot?_guardFault
    (c : Clause) :
    c.guardFault.spot? = some (.ofClause c.keyword) := by
  cases c <;> rfl

end Clause

end CypherAssembly
