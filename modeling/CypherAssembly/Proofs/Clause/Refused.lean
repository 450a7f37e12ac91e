import CypherAssembly.Proofs.Clause.Contributed

/-
  Clauses that are refused.

  Key definitions include:
    * `Refusal.IsForeign`
    * `Contribution.IsWhole`
    * `Clause.isHalved`
    * `Clause.leftText`
    * `Clause.leftClauses`

  Key theorems include:
    * `Attempt.exists_of_inOrder_error`
    * `Clause.eq_one_of_rowsBefore`
    * `Clause.contribution_of_refused`
    * `Clause.isEnded_contribution`

  A clause is broken off only by arguments that it has no
  use for.  It is added as a whole or not at all, with one
  exception: a first page of too many rows is broken off
  between its two lines.  The faults that were met until then
  stay.  So the text of a query is made of whole lines,
  whatever becomes of clauses.
-/

------------------------------------------------------------
-- Reasons to Break Off
------------------------------------------------------------

namespace CypherAssembly

/- Holds for refusals that are problems with arguments. -/
def Refusal.IsForeign
    (r : Refusal) : Prop :=
  (∃ problem, r = .ofProblem problem) ∨
    ∃ kind, r = .notJoined kind

theorem Refusal.isForeign_ofProblem
    (problem : Problem) :
    (Refusal.ofProblem problem).IsForeign :=
  Or.inl ⟨problem, rfl⟩

/- Only a fault from outside is a reason to break off. -/
theorem Refusal.kind?_eq_none
    (f : Fault)
    (hForeign : (Refusal.fault f).IsForeign) :
    f.kind? = none := by
  rcases hForeign with ⟨problem, hEq⟩ | ⟨kind, hEq⟩
  · cases Refusal.fault.inj hEq
    rfl
  · cases hEq

namespace Attempt

variable {A B : Type}

/- What is broken off, one of the attempts broke off. -/
theorem exists_of_inOrder_error
    (attempt : Int → A → Attempt B)
    (start : Int)
    (given : List A)
    (r : Refusal)
    (hError :
      (inOrder attempt start given).outcome = .error r) :
    ∃ i a, (attempt i a).outcome = .error r := by
  induction given generalizing start with
  | nil => cases hError
  | cons a rest ih =>
      unfold inOrder at hError
      cases hFirst : (attempt start a).outcome with
      | error first =>
          simp only [hFirst, Except.error.injEq] at hError
          subst hError
          exact ⟨start, a, hFirst⟩
      | ok b =>
          simp only [hFirst] at hError
          cases hRest :
              (inOrder attempt (start + 1) rest).outcome with
          | error other =>
              simp only [hRest, Except.map,
                Except.error.injEq] at hError
              subst hError
              exact ih (start + 1) hRest
          | ok bs => simp [hRest, Except.map] at hError

end Attempt

/- A pattern is broken off if it has no places for shapes. -/
theorem isForeign_of_resolve_error
    (spot : Spot)
    (c : Content)
    (r : Refusal)
    (hError : (resolve (.ok spot) c).outcome = .error r) :
    r.IsForeign := by
  unfold resolve at hError
  cases hPlaces : c.places with
  | error problem =>
      simp only [hPlaces, Attempt.refused,
        Except.error.injEq] at hError
      rw [← hError]
      exact Refusal.isForeign_ofProblem problem
  | ok places =>
      simp only [hPlaces] at hError
      split at hError
      · simp [Attempt.renderOne, Attempt.ofGathered]
          at hError
      · simp [unsetPattern] at hError

theorem isForeign_of_resolveAll_error
    (clause : Option String)
    (given : List Content)
    (r : Refusal)
    (hError :
      (resolveAll (.ok clause) given).outcome = .error r) :
    r.IsForeign := by
  unfold resolveAll Attempt.map at hError
  simp only at hError
  generalize hOutcome : (Attempt.inOrder _ 0 given).outcome
    = outcome at hError
  cases outcome with
  | ok texts => simp [Except.map] at hError
  | error other =>
      simp only [Except.map, Except.error.injEq] at hError
      subst hError
      rcases Attempt.exists_of_inOrder_error _ 0 given other
          hOutcome with
        ⟨i, c, hResolve⟩
      exact isForeign_of_resolve_error _ c other hResolve

end CypherAssembly

------------------------------------------------------------
-- Whole Contributions
------------------------------------------------------------

namespace CypherAssembly

namespace Contribution

/- A contribution that is refused adds no part of itself. -/
def IsWhole
    (x : Contribution) : Prop :=
  ∀ r, x.refusal = some r →
    x.text = "" ∧ x.clauses = [] ∧ r.IsForeign

/- What is not refused is there as a whole. -/
theorem isWhole_of_accepted
    (x : Contribution)
    (hAccepted : x.refusal = none) :
    x.IsWhole := by
  intro r hRefusal
  rw [hAccepted] at hRefusal
  cases hRefusal

/- So is nothing, whatever was met on the way. -/
theorem isWhole_refused
    (r : Refusal)
    (faults : List Fault)
    (hForeign : r.IsForeign) :
    IsWhole { refused r with faults := faults } := by
  intro other hRefusal
  cases hRefusal
  exact ⟨rfl, rfl, hForeign⟩

theorem isWhole_joining
    (pieces : List Content)
    (x : Contribution)
    (hWhole : x.IsWhole) :
    (x.joining pieces).IsWhole := by
  unfold joining
  split
  · exact isWhole_refused _ _ (Or.inr ⟨_, rfl⟩)
  · exact hWhole

end Contribution

namespace Clause

open Contribution

theorem isWhole_ofPatterns
    (k : Keyword)
    (given : List Content) :
    (ofPatterns k given).IsWhole := by
  unfold ofPatterns
  split
  · exact isWhole_of_accepted _ rfl
  · cases hOutcome :
        (resolveAll (.ok (some k.text)) given).outcome with
    | ok operand =>
        simp only [hOutcome]
        exact isWhole_of_accepted _ rfl
    | error r =>
        simp only [hOutcome]
        apply isWhole_refused
        exact isForeign_of_resolveAll_error _ given r hOutcome

theorem isWhole_ofConditions
    (given : List Content) :
    (ofConditions given).IsWhole := by
  apply isWhole_of_accepted
  unfold ofConditions
  split <;> rfl

theorem isWhole_ofProjections
    (k : Keyword)
    (given : List Content) :
    (ofProjections k given).IsWhole := by
  apply isWhole_of_accepted
  unfold ofProjections
  split <;> rfl

theorem isWhole_unlessVacant
    (k : Keyword)
    (given : Content)
    (x : Contribution)
    (hWhole : x.IsWhole) :
    (unlessVacant k given x).IsWhole := by
  unfold unlessVacant
  split
  · apply isWhole_refused
    exact Refusal.isForeign_ofProblem _
  · split
    · exact isWhole_of_accepted _ rfl
    · exact hWhole

theorem isForeign_of_fromOne_error
    (v : Value)
    (r : Refusal)
    (hError : fromOne v = .error r) :
    r.IsForeign := by
  unfold fromOne at hError
  split at hError
  · cases hError
  · cases hError
    exact Refusal.isForeign_ofProblem _

/- A number of rows is refused if it is too long. -/
theorem rowCount_error
    {count : Value}
    {r : Refusal}
    (hError : rowCount count = .error r) :
    count.isTooLong = true ∧
      r = .ofProblem (.notComputed .tooLong) := by
  rcases exists_of_mapError_error hError with ⟨f, hText, rfl⟩
  rcases Value.inText_error hText with ⟨hLong, rfl⟩
  exact ⟨hLong, rfl⟩

theorem isWhole_ofCount
    (k : Keyword)
    (count : Value) :
    (ofCount k count).IsWhole := by
  unfold ofCount
  cases hCount : rowCount count with
  | ok text => exact isWhole_of_accepted _ rfl
  | error r =>
      rcases rowCount_error hCount with ⟨_, rfl⟩
      exact isWhole_refused _ [] (Refusal.isForeign_ofProblem _)

/- Pages are refused for their numbers alone. -/
theorem isForeign_of_ofPage_error
    (number size : Value)
    (r : Refusal)
    (hError : ofPage number size = .error r) :
    r.IsForeign := by
  rcases cases_of_bind_error hError with
    hNumber | ⟨p, _, hRest⟩
  · exact isForeign_of_fromOne_error number r hNumber
  cases p with
  | none => cases hRest
  | some p =>
      rcases cases_of_bind_error hRest with
        hSize | ⟨s, _, hRest⟩
      · exact isForeign_of_fromOne_error size r hSize
      cases s with
      | none => cases hRest
      | some s =>
          rcases cases_of_bind_error hRest with
            hRows | ⟨rows, _, hRest⟩
          · rcases exists_of_mapError_error hRows with
              ⟨why, _, rfl⟩
            exact Refusal.isForeign_ofProblem _
          · cases hRest

end Clause

end CypherAssembly

------------------------------------------------------------
-- Halved Pages
------------------------------------------------------------

namespace CypherAssembly

namespace Clause

open Contribution

/-
  Holds for the first page of so many rows that their number
  cannot be written.  That no rows come before it stands in
  the text by the time this shows.
-/
def isHalved : Clause → Bool
  | page number size =>
      number.amount? == some (.whole 1) &&
        (size.amount?.isSome && !size.isBelowOne &&
          size.isTooLong)
  | _ => false

/- What is left in the text by a clause that is broken off. -/
def leftText
    (c : Clause) : String :=
  if c.isHalved then "SKIP 0\n" else ""

/- The clauses that stand in that text. -/
def leftClauses
    (c : Clause) : List Keyword :=
  if c.isHalved then [.skip] else []

/-
  A number of rows that is too long is left out of account
  on the first page alone.  On others it makes the rows
  before the page too many.
-/
theorem eq_one_of_rowsBefore
    {p : Amount}
    {s : Int}
    {text : String}
    (hLong : Decimal.isTooLong s = true)
    (hOk : rowsBefore p (.whole s) = .ok text) :
    p = .whole 1 ∧ text = "0" := by
  cases p with
  | whole p =>
      rw [rowsBefore_whole] at hOk
      by_cases hOne : p = 1
      · subst hOne
        have hNone : (1 - 1) * s = 0 := by
          omega
        rw [hNone] at hOk
        cases hOk
        exact ⟨rfl, rfl⟩
      · have hProduct :=
          Decimal.isTooLong_mul (m := p - 1) (by omega) hLong
        rw [if_pos hProduct] at hOk
        cases hOk
  | binary x =>
      rcases exists_of_bind_ok hOk with ⟨pages, hPages, hOk⟩
      rcases exists_of_bind_ok hOk with ⟨rows, hRows, _⟩
      rcases exists_of_bind_ok hPages with ⟨y, _, hPages⟩
      rcases exists_of_bind_ok hPages with ⟨z, _, hPages⟩
      cases hPages
      rcases exists_of_bind_ok hRows with ⟨y, _, hRows⟩
      rcases exists_of_bind_ok hRows with ⟨z, hSize, _⟩
      simp [Amount.toBinary, Binary64.ofInt?_of_tooLong hLong]
        at hSize

/- Of several amounts, only whole numbers can be too long. -/
theorem amount_of_tooLong
    {v : Value}
    {a : Amount}
    (hLong : v.isTooLong = true)
    (hAmount : v.amount? = some a) :
    ∃ n, a = .whole n ∧ Decimal.isTooLong n = true := by
  cases v with
  | int n =>
      cases hAmount
      exact ⟨n, rfl, hLong⟩
  | bool b => cases hLong
  | float x => cases hLong
  | _ => cases hAmount

/- A number that is not below one is the amount that it is. -/
theorem fromOne_of_fits
    {v : Value}
    {a : Amount}
    (hAmount : v.amount? = some a)
    (hFits : v.isBelowOne = false) :
    fromOne v = .ok (some a) := by
  simp only [Value.isBelowOne, hAmount] at hFits
  simp [fromOne, hAmount, hFits]

/- A first page of too many rows comes to its second line. -/
theorem ofPage_of_halved
    {number size : Value}
    (hHalved : (page number size).isHalved = true) :
    ofPage number size =
      .ok
        (.paged "0"
          (.error (.ofProblem (.notComputed .tooLong)))) := by
  simp only [isHalved, Bool.and_eq_true, beq_iff_eq,
    Bool.not_eq_true', Option.isSome_iff_exists] at hHalved
  rcases hHalved with
    ⟨hFirst, ⟨⟨s, hSize⟩, hFits⟩, hLong⟩
  have hFirstFits : number.isBelowOne = false := by
    rw [Value.isBelowOne, hFirst]
    rfl
  rcases amount_of_tooLong hLong hSize with ⟨n, rfl, _⟩
  have hNone : (1 - 1) * n = 0 := by
    omega
  have hRows : rowsBefore (.whole 1) (.whole n) = .ok "0" := by
    rw [rowsBefore_whole, hNone]
    rfl
  have hCount :
      rowCount size =
        .error (.ofProblem (.notComputed .tooLong)) := by
    rw [rowCount, Value.inText_of_tooLong _ hLong]
    rfl
  simp only [ofPage, fromOne_of_fits hFirst hFirstFits,
    fromOne_of_fits hSize hFits, bind, Except.bind, hRows,
    hCount]
  rfl

/-
  A page that is refused leaves nothing, unless it is halved.
  The line of its rows is there when these are no rows.
-/
theorem page_of_refused
    {number size : Value}
    {r : Refusal}
    (hRefused :
      (page number size).contribution.refusal = some r) :
    let x := (page number size).contribution
    x.text = (page number size).leftText ∧
      x.clauses = (page number size).leftClauses ∧
        r.IsForeign := by
  simp only [contribution] at hRefused ⊢
  cases hPage : ofPage number size with
  | error other =>
      rw [hPage] at hRefused
      have hForeign :=
        isForeign_of_ofPage_error number size other hPage
      cases hRefused
      have hNot : (page number size).isHalved = false := by
        rw [Bool.eq_false_iff]
        intro hHalved
        rw [ofPage_of_halved hHalved] at hPage
        cases hPage
      rw [leftText, leftClauses, hNot]
      exact ⟨rfl, rfl, hForeign⟩
  | ok x =>
      rw [hPage] at hRefused
      rcases ofPage_cases number size x hPage with
        ⟨_, rfl⟩ | ⟨_, _, rfl⟩ |
          ⟨_, hFits, ⟨p, s, hNumber, hSize, hRows⟩, rfl⟩
      · cases hRefused
      · cases hRefused
      · cases hCount : rowCount size with
        | ok text =>
            rw [hCount] at hRefused
            cases hRefused
        | error other =>
            rw [hCount] at hRefused
            cases hRefused
            rcases rowCount_error hCount with ⟨hLong, rfl⟩
            rcases amount_of_tooLong hLong hSize with
              ⟨n, rfl, hTooLong⟩
            rcases eq_one_of_rowsBefore hTooLong hRows with
              ⟨rfl, hNone⟩
            have hHalved :
                (page number size).isHalved = true := by
              simp [isHalved, hNumber, hSize, hFits, hLong]
            rw [leftText, leftClauses, hHalved, hNone]
            exact
              ⟨rfl, rfl, Refusal.isForeign_ofProblem _⟩

/-
  A clause that is broken off leaves no text and no clause,
  unless it is a page that is halved.
-/
theorem contribution_of_refused
    (c : Clause)
    (r : Refusal)
    (hRefused : c.contribution.refusal = some r) :
    c.contribution.text = c.leftText ∧
      c.contribution.clauses = c.leftClauses ∧
        r.IsForeign := by
  have hWhole :
      c.isHalved = false →
        c.contribution.IsWhole →
          c.contribution.text = c.leftText ∧
            c.contribution.clauses = c.leftClauses ∧
              r.IsForeign := by
    intro hNot hWhole
    rw [leftText, leftClauses, hNot]
    exact hWhole r hRefused
  cases c with
  | patterns kind given =>
      apply hWhole rfl
      apply isWhole_joining
      exact isWhole_ofPatterns _ given
  | conditions given =>
      apply hWhole rfl
      apply isWhole_joining
      exact isWhole_ofConditions given
  | projections kind given =>
      apply hWhole rfl
      apply isWhole_joining
      exact isWhole_ofProjections _ given
  | delete detach target =>
      apply hWhole rfl
      apply isWhole_joining
      apply isWhole_unlessVacant
      exact isWhole_of_accepted _ rfl
  | remove target =>
      apply hWhole rfl
      apply isWhole_joining
      apply isWhole_unlessVacant
      exact isWhole_of_accepted _ rfl
  | orderBy order =>
      apply hWhole rfl
      apply isWhole_joining
      apply isWhole_unlessVacant
      exact isWhole_of_accepted _ rfl
  | union keepAll => cases hRefused
  | limit count => exact hWhole rfl (isWhole_ofCount _ count)
  | skip count => exact hWhole rfl (isWhole_ofCount _ count)
  | page number size => exact page_of_refused hRefused
  | call given =>
      apply hWhole rfl
      exact isWhole_refused _ [] (Refusal.isForeign_ofProblem _)

/- No clause leaves a line open, not even a refused one. -/
theorem isEnded_contribution
    (c : Clause) :
    IsEnded c.contribution.text := by
  cases hRefusal : c.contribution.refusal with
  | none =>
      rw [c.contribution_text hRefusal]
      exact c.isEnded_fragment
  | some r =>
      rcases c.contribution_of_refused r hRefusal with
        ⟨hText, _, _⟩
      rw [hText, leftText]
      split
      · exact Or.inr ⟨"SKIP 0", rfl⟩
      · exact isEnded_empty

end Clause

end CypherAssembly
