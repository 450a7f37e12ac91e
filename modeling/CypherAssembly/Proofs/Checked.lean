import CypherAssembly.Field

/-
  Fields that were checked.

  Key theorems include:
    * `Checked.exists_of_and_ok`
    * `Field.exists_of_inField_ok`
    * `Field.exists_of_required_ok`
    * `Field.withDefault_of_required`

  Where several fields come out of checking, each of them
  has.  A field that has to be given was given then, and it
  is read in the same way where it can be left out.
-/

------------------------------------------------------------
-- Results
------------------------------------------------------------

namespace CypherAssembly

variable {A B : Type}

/- Two results are there together if both are there. -/
theorem Checked.exists_of_and_ok
    {x : Checked A}
    {y : Checked B}
    {r : A × B}
    (hOk : x.and y = .ok r) :
    x = .ok r.1 ∧ y = .ok r.2 := by
  cases x with
  | ok a =>
      cases y with
      | ok b =>
          cases hOk
          exact ⟨rfl, rfl⟩
      | error more => cases hOk
  | error faults => cases y <;> cases hOk

end CypherAssembly

------------------------------------------------------------
-- Fields
------------------------------------------------------------

namespace CypherAssembly

namespace Field

variable {A : Type}
variable {field : String}
variable {read : Value → Except FieldProblem A}
variable {fields : Record Value}
variable {a : A}

/- A field has nothing wrong with it if it was read. -/
theorem inField_ok
    (field : String)
    (a : A) :
    inField field (.ok a) = .ok a := rfl

theorem exists_of_inField_ok
    {result : Except FieldProblem A}
    (hOk : inField field result = .ok a) :
    result = .ok a := by
  cases result with
  | ok b => exact congrArg Except.ok (Except.ok.inj hOk)
  | error problem => cases hOk

/- A field that has to be given was given and was read. -/
theorem exists_of_required_ok
    (hOk : required field read fields = .ok a) :
    ∃ v, fields.get? field = some v ∧ read v = .ok a := by
  unfold required at hOk
  split at hOk
  · cases hOk
  · rename_i v hGiven
    exact ⟨v, hGiven, exists_of_inField_ok hOk⟩

/- It does not need the value that stands in for it. -/
theorem withDefault_of_required
    (default : A)
    (hOk : required field read fields = .ok a) :
    withDefault field default read fields = .ok a := by
  rcases exists_of_required_ok hOk with ⟨v, hGiven, hRead⟩
  rw [withDefault, hGiven]
  change inField field (read v) = .ok a
  rw [hRead]
  rfl

end Field

end CypherAssembly
