import CypherAssembly.Clause
import CypherAssembly.Proofs.Steps
import CypherAssembly.Proofs.Text.Ended

/-
  The fragment of text that a clause puts into a query.

  Key definitions include:
    * `Content.textOrEmpty`
    * `Content.patternText`
    * `PatternClause.opening`
    * `ProjectionKind.opening`
    * `Clause.isRejected`
    * `Clause.line`
    * `Clause.fragment`

  Key theorems include:
    * `Clause.fragment_eq_empty_iff`
    * `resolveAll_ok`

  The fragment is said here without following the steps in
  which a clause is assembled.  Operands are the texts of
  the content, joined as the clause joins them, and content
  that fails has the empty text.
-/

------------------------------------------------------------
-- Operands
------------------------------------------------------------

namespace CypherAssembly

namespace Content

/- The text of content, empty if it cannot be rendered. -/
def textOrEmpty
    (c : Content) : String :=
  match c.render with
  | .ok text => text
  | .error _ => ""

/- The text of the first shape that a pattern has. -/
def patternText
    (c : Content) : String :=
  match c.preferred? with
  | some shape => shape.textOrEmpty
  | none => ""

end Content

/- Holds for numbers that no page can have. -/
def Value.isBelowOne
    (v : Value) : Bool :=
  match v.amount? with
  | some a => a.isBelow (.whole 1)
  | none => false

/-
  The number of rows on the pages before a page.  Binary
  numbers are rounded on the way, whole numbers are not.
-/
def Value.rowsBefore
    (number size : Value) : String :=
  match number.amount?, size.amount? with
  | some (.whole p), some (.whole s) =>
      Decimal.ofInt ((p - 1) * s)
  | some p, some s =>
      (Clause.rowsBefore p s).toOption.getD ""
  | _, _ => ""

end CypherAssembly

------------------------------------------------------------
-- Fragments
------------------------------------------------------------

namespace CypherAssembly

/- What the line of a clause made of patterns begins with. -/
def PatternClause.opening : PatternClause → String
  | matching => "MATCH "
  | optionalMatching => "OPTIONAL MATCH "
  | merge => "MERGE "
  | create => "CREATE "

/- What the line of projected expressions begins with. -/
def ProjectionKind.opening : ProjectionKind → String
  | returned => "RETURN "
  | carried => "WITH "

/- That is their keyword, with a space behind it. -/
theorem PatternClause.opening_eq
    (kind : PatternClause) :
    kind.opening = kind.keyword.text ++ " " := by
  cases kind <;> rfl

theorem ProjectionKind.opening_eq
    (kind : ProjectionKind) :
    kind.opening = kind.keyword.text ++ " " := by
  cases kind <;> rfl

namespace Clause

/- Holds for requests that there is nothing to say for. -/
def isRejected : Clause → Bool
  | patterns _ given => given.isEmpty
  | conditions given => given.isEmpty
  | projections _ given => given.isEmpty
  | delete _ target => target.isVacant
  | remove target => target.isVacant
  | orderBy order => order.isVacant
  | union _ => false
  | limit _ => false
  | skip _ => false
  | page number size =>
      number.isBelowOne || size.isBelowOne
  | call _ => true

/- The text of a clause that has something to say. -/
def line : Clause → String
  | patterns kind given =>
      kind.opening ++
        String.join (given.map Content.patternText) ++ "\n"
  | conditions given =>
      "WHERE " ++
        String.join (given.map Content.textOrEmpty) ++ "\n"
  | projections kind given =>
      kind.opening ++
        ", ".intercalate (given.map Content.textOrEmpty) ++
        "\n"
  | delete detach target =>
      (if detach then "DETACH DELETE " else "DELETE ") ++
        target.textOrEmpty ++ "\n"
  | remove target =>
      "REMOVE " ++ trimSuffix ", " target.textOrEmpty ++ "\n"
  | orderBy order => "ORDER BY " ++ order.textOrEmpty ++ "\n"
  | union keepAll =>
      if keepAll then "UNION ALL\n" else "UNION\n"
  | limit count => "LIMIT " ++ count.plain ++ "\n"
  | skip count => "SKIP " ++ count.plain ++ "\n"
  | page number size =>
      ("SKIP " ++ number.rowsBefore size ++ "\n") ++
        ("LIMIT " ++ size.plain ++ "\n")
  | call _ => ""

/- What a clause puts into the text of a query. -/
def fragment
    (c : Clause) : String :=
  if c.isRejected then "" else c.line

/- A clause with something to say closes its line. -/
theorem exists_line_eq
    (c : Clause)
    (hSome : c.isRejected = false) :
    ∃ body, c.line = body ++ "\n" := by
  cases c with
  | union keepAll =>
      cases keepAll with
      | true => exact ⟨"UNION ALL", rfl⟩
      | false => exact ⟨"UNION", rfl⟩
  | page number size =>
      exact ⟨_, String.append_assoc.symm⟩
  | call given => cases hSome
  | _ => exact ⟨_, rfl⟩

/- A fragment is made of whole lines. -/
theorem isEnded_fragment
    (c : Clause) :
    IsEnded c.fragment := by
  unfold fragment
  cases hRejected : c.isRejected with
  | true => exact isEnded_empty
  | false => exact Or.inr (c.exists_line_eq hRejected)

/- There is a fragment unless the request is rejected. -/
theorem fragment_eq_empty_iff
    (c : Clause) :
    c.fragment = "" ↔ c.isRejected = true := by
  unfold fragment
  cases hRejected : c.isRejected with
  | true => simp
  | false =>
      rcases c.exists_line_eq hRejected with ⟨body, hLine⟩
      simp [hLine]

end Clause

end CypherAssembly

------------------------------------------------------------
-- Gathered Texts
------------------------------------------------------------

namespace CypherAssembly

/- One piece of content is gathered as its text. -/
theorem value_renderOne
    (spot : Spot)
    (c : Content) :
    (renderOne spot c).value = c.textOrEmpty := by
  unfold renderOne Content.textOrEmpty
  cases c.render <;> rfl

/- Many pieces are gathered as their texts, in order. -/
theorem value_composeFrom
    (clause : String)
    (start : Int)
    (given : List Content) :
    (composeFrom clause start given).value =
      given.map Content.textOrEmpty := by
  induction given generalizing start with
  | nil => rfl
  | cons c rest ih =>
      simp [composeFrom, value_renderOne, ih]

/- Texts side by side. -/
theorem value_concat
    (clause : String)
    (given : List Content) :
    (concat clause given).value =
      String.join (given.map Content.textOrEmpty) := by
  simp [concat, compose, value_composeFrom]

namespace Attempt

/- A piece of content that is not refused gives its text. -/
theorem renderOne_ok
    (spot : Checked Spot)
    (c : Content)
    (text : String)
    (hOk : (renderOne spot c).outcome = .ok text) :
    text = c.textOrEmpty := by
  unfold renderOne at hOk
  cases spot with
  | ok spot =>
      simp only [ofGathered, Except.ok.injEq] at hOk
      rw [← hOk, value_renderOne]
  | error faults =>
      unfold Content.textOrEmpty
      cases hRender : c.render with
      | ok rendered => simp_all
      | error fault =>
          cases fault <;> simp_all [refused]

/-
  If single attempts that come to an end have results given
  by `result`, so do attempts in order.
-/
theorem inOrder_ok
    {A B : Type}
    (attempt : Int → A → Attempt B)
    (result : A → B)
    (hEach : ∀ i a b,
      (attempt i a).outcome = .ok b → b = result a)
    (start : Int)
    (given : List A)
    (results : List B)
    (hOk :
      (inOrder attempt start given).outcome = .ok results) :
    results = given.map result := by
  induction given generalizing start results with
  | nil =>
      simp only [inOrder, Except.ok.injEq] at hOk
      exact hOk.symm
  | cons a rest ih =>
      unfold inOrder at hOk
      cases hFirst : (attempt start a).outcome with
      | error r => simp [hFirst] at hOk
      | ok b =>
          cases hRest :
              (inOrder attempt (start + 1) rest).outcome with
          | error r =>
              simp [hFirst, hRest, Except.map] at hOk
          | ok bs =>
              simp only [hFirst, hRest, Except.map,
                Except.ok.injEq] at hOk
              rw [← hOk, hEach start a b hFirst,
                ih (start + 1) bs hRest, List.map_cons]

end Attempt

/- A pattern that is not refused gives its text. -/
theorem resolve_ok
    (spot : Checked Spot)
    (c : Content)
    (text : String)
    (hOk : (resolve spot c).outcome = .ok text) :
    text = c.patternText := by
  unfold resolve at hOk
  unfold Content.patternText Content.preferred?
    Content.knownPlaces
  cases hPlaces : c.places with
  | error problem =>
      simp [hPlaces, Attempt.refused] at hOk
  | ok places =>
      simp only [hPlaces, Except.toOption,
        Option.getD_some] at hOk ⊢
      cases hFind : places.find? fun p => p.2.isGiven with
      | none =>
          simp only [hFind] at hOk
          cases spot with
          | ok spot =>
              simpa [unsetPattern] using hOk.symm
          | error faults =>
              simp [unsetPattern, Attempt.refused] at hOk
      | some place =>
          simp only [hFind] at hOk
          exact Attempt.renderOne_ok spot place.2 text hOk

/- Patterns that are not refused give their texts. -/
theorem resolveAll_ok
    (clause : Checked (Option String))
    (given : List Content)
    (text : String)
    (hOk : (resolveAll clause given).outcome = .ok text) :
    text = String.join (given.map Content.patternText) := by
  unfold resolveAll Attempt.map at hOk
  simp only at hOk
  generalize hOutcome : (Attempt.inOrder _ 0 given).outcome
    = outcome at hOk
  cases outcome with
  | error r => simp [Except.map] at hOk
  | ok texts =>
      simp only [Except.map, Except.ok.injEq] at hOk
      rw [← hOk,
        Attempt.inOrder_ok _ Content.patternText
          (fun i c text => resolve_ok _ c text) 0 given texts
          hOutcome]

end CypherAssembly
