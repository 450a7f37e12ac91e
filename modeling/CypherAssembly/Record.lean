/-
  Records, the ordered maps of this library.

  Key definitions include:
    * `Record`
    * `Record.get?`
    * `Record.put`
    * `Record.erase`
    * `Record.ofPairs`

  Key theorems include:
    * `Record.get?_put_self`
    * `Record.get?_put_of_ne`
    * `Record.get?_erase_self`
    * `Record.get?_erase_of_ne`
    * `Record.erase_of_get?_none`

  A record lists its names in the order in which they were
  first put in.  Putting a name in again replaces the value
  and keeps the place.
-/

------------------------------------------------------------
-- Operations
------------------------------------------------------------

namespace CypherAssembly

/- Names with their values, in order. -/
abbrev Record (A : Type) :=
  List (String × A)

namespace Record

variable {A : Type}

/- The value of a name. -/
def get?
    (name : String) : Record A → Option A
  | [] => none
  | (other, value) :: rest =>
      if other = name then some value else get? name rest

/- Give a name a value. -/
def put
    (name : String)
    (value : A) : Record A → Record A
  | [] => [(name, value)]
  | (other, old) :: rest =>
      if other = name then
        (name, value) :: rest
      else
        (other, old) :: put name value rest

/- Leave a name out. -/
def erase
    (name : String)
    (r : Record A) : Record A :=
  r.filter fun entry => entry.1 ≠ name

/- Put pairs in one after the other. -/
def ofPairs
    (pairs : List (String × A)) : Record A :=
  pairs.foldl (fun r entry => r.put entry.1 entry.2) []

end Record

end CypherAssembly

------------------------------------------------------------
-- Look-up
------------------------------------------------------------

namespace CypherAssembly

namespace Record

variable {A : Type}

/- A name that was put in has the value put in. -/
theorem get?_put_self
    (name : String)
    (value : A)
    (r : Record A) :
    (r.put name value).get? name = some value := by
  induction r with
  | nil => simp [put, get?]
  | cons entry rest ih =>
      obtain ⟨other, old⟩ := entry
      by_cases hEq : other = name
      · simp [put, get?, hEq]
      · simp [put, get?, hEq, ih]

/- Other names keep their values. -/
theorem get?_put_of_ne
    (name other : String)
    (value : A)
    (r : Record A)
    (hNe : other ≠ name) :
    (r.put name value).get? other = r.get? other := by
  induction r with
  | nil => simp [put, get?, Ne.symm hNe]
  | cons entry rest ih =>
      obtain ⟨first, old⟩ := entry
      by_cases hEq : first = name
      · subst hEq
        simp [put, get?, Ne.symm hNe]
      · by_cases hOther : first = other
        · subst hOther
          simp [put, get?, hEq]
        · simp [put, get?, hEq, hOther, ih]

/- A name that was left out has no value any more. -/
theorem get?_erase_self
    (name : String)
    (r : Record A) :
    (r.erase name).get? name = none := by
  induction r with
  | nil => rfl
  | cons entry rest ih =>
      obtain ⟨first, value⟩ := entry
      by_cases hFirst : first = name
      · simpa [erase, hFirst] using ih
      · simpa [erase, get?, hFirst] using ih

/- Other names keep their values. -/
theorem get?_erase_of_ne
    (name other : String)
    (r : Record A)
    (hNe : other ≠ name) :
    (r.erase name).get? other = r.get? other := by
  induction r with
  | nil => rfl
  | cons entry rest ih =>
      obtain ⟨first, value⟩ := entry
      by_cases hFirst : first = name
      · subst hFirst
        simpa [erase, get?, Ne.symm hNe] using ih
      · by_cases hOther : first = other
        · subst hOther
          simp [erase, get?, hFirst]
        · simpa [erase, get?, hFirst, hOther] using ih

/- A name without a value does not have to be left out. -/
theorem erase_of_get?_none
    (name : String)
    (r : Record A)
    (hNone : r.get? name = none) :
    r.erase name = r := by
  induction r with
  | nil => rfl
  | cons entry rest ih =>
      obtain ⟨first, value⟩ := entry
      by_cases hFirst : first = name
      · simp [get?, hFirst] at hNone
      · simp only [get?, hFirst, if_false] at hNone
        rw [erase, List.filter_cons_of_pos (by simpa using hFirst)]
        exact congrArg ((first, value) :: ·) (ih hNone)

end Record

end CypherAssembly
