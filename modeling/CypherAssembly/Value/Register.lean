import CypherAssembly.Value.Order

/-
  Registers, the ordered maps with names of any kind.

  Key definitions include:
    * `Register`
    * `Register.get?`
    * `Register.put`
    * `Register.toValue`

  Key theorems include:
    * `Register.get?_put_self`
    * `Register.get?_put_of_ne`

  A register differs from a record in that its names need
  not be texts.  Names that mean the same are one name, and
  it keeps the form in which it was put in first.
-/

------------------------------------------------------------
-- Registers
------------------------------------------------------------

namespace CypherAssembly

/- Values of any kind as names of something, in order. -/
abbrev Register (A : Type) :=
  List (Value × A)

namespace Register

variable {A : Type}

/- What is registered under a name. -/
def get?
    (name : Value)
    (r : Register A) : Option A :=
  (r.find? fun entry => entry.1.same name).map (·.2)

/- Register something under a name. -/
def put
    (name : Value)
    (a : A) : Register A → Register A
  | [] => [(name, a)]
  | (other, old) :: rest =>
      if other.same name then
        (other, a) :: rest
      else
        (other, old) :: put name a rest

/- Register pairs one after the other. -/
def ofPairs
    (pairs : List (Value × A)) : Register A :=
  pairs.foldl (fun r entry => r.put entry.1 entry.2) []

/-
  A register as a value: a map if all of its names are
  texts, else a table.
-/
def toValue
    (r : Register Value) : Value :=
  let named := Value.namedEntries r
  if named.length = r.length then .map named else .table r

end Register

end CypherAssembly

------------------------------------------------------------
-- Looking Up
------------------------------------------------------------

namespace CypherAssembly

/-
  A text means the same as itself only, and so does nothing
  at all.  Numbers are different: one is the same as true.
-/
theorem Value.same_ofText?_iff
    (v : Value)
    (name : Option String) :
    v.same (.ofText? name) = true ↔ v = .ofText? name := by
  cases name <;> cases v <;>
    simp [ofText?, same, place?]

theorem Value.ofText?_same_iff
    (name : Option String)
    (v : Value) :
    (Value.ofText? name).same v = true ↔
      v = .ofText? name := by
  cases name <;> cases v <;>
    simp [ofText?, same, place?]
  exact eq_comm

namespace Register

variable {A : Type}

/- What was put under a name is there. -/
theorem get?_put_self
    (name : Option String)
    (a : A)
    (r : Register A) :
    (r.put (.ofText? name) a).get? (.ofText? name) =
      some a := by
  induction r with
  | nil =>
      have hSame := (Value.same_ofText?_iff _ name).mpr rfl
      simp [put, get?, hSame]
  | cons entry rest ih =>
      rcases entry with ⟨other, old⟩
      unfold put
      split
      · rename_i hSame
        simp [get?, hSame]
      · rename_i hNot
        simpa [get?, hNot] using ih

/- What is put under another name does not matter. -/
theorem get?_put_of_ne
    (name : Option String)
    (other : Value)
    (a : A)
    (r : Register A)
    (hNe : other ≠ .ofText? name) :
    (r.put other a).get? (.ofText? name) =
      r.get? (.ofText? name) := by
  induction r with
  | nil =>
      have hNot : other.same (.ofText? name) ≠ true :=
        fun hSame =>
          hNe ((Value.same_ofText?_iff other name).mp hSame)
      simp [put, get?, hNot]
  | cons entry rest ih =>
      rcases entry with ⟨first, old⟩
      unfold put
      split
      · rename_i hSame
        -- The entry that is replaced has another name, too.
        have hNot : first.same (.ofText? name) ≠ true := by
          intro hFirst
          rw [(Value.same_ofText?_iff first name).mp hFirst,
            Value.ofText?_same_iff] at hSame
          exact hNe hSame
        simp [get?, hNot]
      · cases hFirst : first.same (.ofText? name) with
        | true => simp [get?, hFirst]
        | false => simpa [get?, hFirst] using ih

end Register

end CypherAssembly
