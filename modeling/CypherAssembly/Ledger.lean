import CypherAssembly.Builder
import CypherAssembly.Value.Register

/-
  A ledger of faults.

  Key definitions include:
    * `Ledger`
    * `Ledger.record`
    * `Ledger.bundle`
    * `Ledger.keep`
    * `Ledger.kept?`
    * `Ledger.keptCount`

  Content can be gathered without a query around it.  The
  ledger then holds the faults, and bundles of them can be
  made and kept at any time.  A bundle holds the faults that
  were recorded before it was made.
-/

------------------------------------------------------------
-- Ledgers
------------------------------------------------------------

namespace CypherAssembly

/- Faults in order, bundles by name, and the journal. -/
structure Ledger where
  faults : List Fault := []
  kept : Register (Option Fault) := []
  journal : List Event := []

namespace Ledger

/- Add faults that were met in a clause. -/
def record
    (l : Ledger)
    (clause : Value)
    (faults : List Fault) : Ledger :=
  { l with
    faults := l.faults ++ faults
    journal := l.journal ++
      Event.ofRecording clause l.faults.length faults }

/- The faults so far in one, if there are any. -/
def bundle
    (l : Ledger) : Option Fault :=
  Fault.ofMany? l.faults

/- There is no bundle exactly when nothing was recorded. -/
theorem bundle_eq_none_iff
    (l : Ledger) :
    l.bundle = none ↔ l.faults = [] := by
  cases hFaults : l.faults <;>
    simp [bundle, Fault.ofMany?, hFaults]

/- Keep the bundle of the faults so far under a name. -/
def keep
    (l : Ledger)
    (name : Value) : Except Refusal Ledger := do
  let name ← name.asName
  return { l with kept := l.kept.put name l.bundle }

/- What was kept under a name last. -/
def kept?
    (l : Ledger)
    (name : Value) : Except Refusal (Option Fault) := do
  match l.kept.get? (← name.asName) with
  | some bundle => return bundle
  | none => throw (.noSuchName name)

/- The number of faults in the bundle kept under a name. -/
def keptCount
    (l : Ledger)
    (name : Value) : Except Refusal Nat := do
  match ← l.kept? name with
  | some (.composite faults) => return faults.length
  | _ => throw .noBundle

end Ledger

end CypherAssembly
