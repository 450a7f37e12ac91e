/-
  Computations in several steps.

  Key definitions include:
    * `StopsAtFirst`

  Key theorems include:
    * `exists_of_bind_ok`
    * `exists_of_map_ok`
    * `eq_ok_of_mapError_ok`
    * `exists_of_mapError_error`
    * `cases_of_bind_error`
    * `StopsAtFirst.bind`
    * `StopsAtFirst.mapM`

  A computation that comes to an end has come to the end of
  each of its steps.  One that does not has stopped at the
  first thing that was wrong, in the order of its steps.
-/

------------------------------------------------------------
-- Steps
------------------------------------------------------------

namespace CypherAssembly

variable {E A B : Type}

/- The first step ends, and the others start from its end. -/
theorem exists_of_bind_ok
    {first : Except E A}
    {others : A → Except E B}
    {b : B}
    (hOk : first >>= others = .ok b) :
    ∃ a, first = .ok a ∧ others a = .ok b := by
  cases first with
  | error e => cases hOk
  | ok a => exact ⟨a, rfl, hOk⟩

/- A result that was changed is there before the change. -/
theorem exists_of_map_ok
    {x : Except E A}
    {f : A → B}
    {b : B}
    (hOk : x.map f = .ok b) :
    ∃ a, x = .ok a ∧ b = f a := by
  cases x with
  | error e => cases hOk
  | ok a => exact ⟨a, rfl, (Except.ok.inj hOk).symm⟩

/- A result is not changed with the words for its errors. -/
theorem eq_ok_of_mapError_ok
    {F : Type}
    {x : Except E A}
    {f : E → F}
    {a : A}
    (hOk : x.mapError f = .ok a) :
    x = .ok a := by
  cases x with
  | error e => cases hOk
  | ok b => exact congrArg Except.ok (Except.ok.inj hOk)

/- An error in other words is there before the change. -/
theorem exists_of_mapError_error
    {F : Type}
    {x : Except E A}
    {f : E → F}
    {e : F}
    (hError : x.mapError f = .error e) :
    ∃ before, x = .error before ∧ e = f before := by
  cases x with
  | error before =>
      exact ⟨before, rfl, (Except.error.inj hError).symm⟩
  | ok a => cases hError

/- What fails, fails in its first step or in the others. -/
theorem cases_of_bind_error
    {first : Except E A}
    {others : A → Except E B}
    {e : E}
    (hError : first >>= others = .error e) :
    first = .error e ∨
      ∃ a, first = .ok a ∧ others a = .error e := by
  cases first with
  | error e => exact Or.inl (by cases hError; rfl)
  | ok a => exact Or.inr ⟨a, rfl, hError⟩

end CypherAssembly

------------------------------------------------------------
-- First Errors
------------------------------------------------------------

namespace CypherAssembly

variable {E A B : Type}

/-
  A computation stops at the first of some errors.  If there
  are none, it comes to its end.
-/
def StopsAtFirst
    (errors : List E)
    (x : Except E A) : Prop :=
  ∀ e, x = .error e ↔ errors.head? = some e

namespace StopsAtFirst

/- Without errors there is nothing to stop at. -/
theorem ok
    (a : A) :
    StopsAtFirst ([] : List E) (.ok a) := by
  intro e
  constructor
  · intro hError
    cases hError
  · intro hHead
    cases hHead

/- A single error is the first one. -/
theorem error
    (e : E) :
    StopsAtFirst [e] (.error e : Except E A) := by
  intro e'
  simp

variable {errors others : List E}

theorem exists_ok_iff
    {x : Except E A}
    (hStops : StopsAtFirst errors x) :
    (∃ a, x = .ok a) ↔ errors = [] := by
  rw [← List.head?_eq_none_iff,
    Option.eq_none_iff_forall_ne_some]
  constructor
  · rintro ⟨a, rfl⟩ e hHead
    cases (hStops e).mpr hHead
  · intro hNone
    cases x with
    | ok a => exact ⟨a, rfl⟩
    | error e => exact absurd ((hStops e).mp rfl) (hNone e)

/- The errors of the first step come first. -/
theorem bind
    {first : Except E A}
    {next : A → Except E B}
    (hFirst : StopsAtFirst errors first)
    (hNext :
      ∀ a, first = .ok a → StopsAtFirst others (next a)) :
    StopsAtFirst (errors ++ others) (first >>= next) := by
  cases errors with
  | nil =>
      rcases hFirst.exists_ok_iff.mpr rfl with ⟨a, rfl⟩
      exact hNext a rfl
  | cons e rest =>
      have hStopped : first = .error e := (hFirst e).mpr rfl
      rw [hStopped]
      intro e'
      change Except.error e = Except.error e' ↔ _
      simp

/- It does not matter what becomes of the result. -/
theorem map
    {x : Except E A}
    (hStops : StopsAtFirst errors x)
    (f : A → B) :
    StopsAtFirst errors (x.map f) := by
  intro e
  rw [← hStops e]
  cases x with
  | ok a => simp [Except.map]
  | error e' => simp [Except.map]

/- Computations in a row stop at the first of all errors. -/
theorem mapM
    {errorsOf : A → List E}
    {check : A → Except E B}
    (hEach : ∀ a, StopsAtFirst (errorsOf a) (check a))
    (given : List A) :
    StopsAtFirst (given.flatMap errorsOf)
      (given.mapM check) := by
  induction given with
  | nil => exact ok []
  | cons a rest ih =>
      rw [List.mapM_cons, List.flatMap_cons]
      apply (hEach a).bind
      intro b _
      rw [← List.append_nil (rest.flatMap errorsOf)]
      apply ih.bind
      intro bs _
      exact ok (b :: bs)

end StopsAtFirst

end CypherAssembly
