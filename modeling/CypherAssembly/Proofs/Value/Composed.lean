import CypherAssembly.Pattern.Node
import CypherAssembly.Proofs.Text.Longer

/-
  Lists as properties in a query.

  Key definitions include:
    * `Value.isAlike`
    * `Value.composed`
    * `Value.leaves`

  Key theorems include:
    * `Value.literal_eq_shown_iff`
    * `Value.eq_composed`
    * `Value.list_is_composed_iff`

  The literal of a list shows its items, as a message would.
  It is made of the literals of the items only if these look
  the same.  This is true of numbers and of texts with
  nothing to escape in them, but not of truth values, of
  parameters or of nothing at all.
-/

------------------------------------------------------------
-- Single Values
------------------------------------------------------------

namespace CypherAssembly

namespace Value

/- Holds for values that are shown like their literals. -/
def isAlike : Value → Bool
  | null => false
  | bool _ => false
  | text s =>
      !isParameter s && s.toList.all Quoted.isVerbatim
  | _ => true

/- A value is never shown in less room than its literal. -/
theorem length_literal_le
    (v : Value) :
    v.literal.length ≤ v.shown.length := by
  cases v with
  | null => decide
  | bool b => cases b <;> decide
  | text s =>
      have hMarks := Quoted.length_le_length_write s
      rw [literal, shown]
      split
      · omega
      · rw [String.length_append, String.length_append]
        have hMark : "'".length = 1 := rfl
        omega
  | _ => exact Nat.le_refl _

theorem literal_eq_shown_iff
    (v : Value) :
    v.literal = v.shown ↔ v.isAlike = true := by
  cases v with
  | null => decide
  | bool b => cases b <;> decide
  | text s =>
      rw [literal, shown, isAlike]
      cases hParameter : isParameter s with
      | true =>
          -- There are no marks around a parameter.
          have hMarks := Quoted.length_le_length_write s
          simp only [if_true, Bool.not_true, Bool.false_and,
            Bool.false_eq_true, iff_false]
          intro hSame
          rw [← hSame] at hMarks
          omega
      | false =>
          rw [if_neg Bool.false_ne_true, eq_comm,
            Quoted.write_eq_iff, Bool.not_false,
            Bool.true_and]
  | _ => exact iff_of_true rfl rfl

end Value

end CypherAssembly

------------------------------------------------------------
-- Composed Lists
------------------------------------------------------------

namespace CypherAssembly

mutual

/- A value with all lists made of what is in them. -/
def Value.composed : Value → String
  | .list items =>
      "[" ++ ", ".intercalate (Value.composedItems items) ++
        "]"
  | v => v.literal

/- The composed forms of a list of values. -/
def Value.composedItems : List Value → List String
  | [] => []
  | v :: rest => v.composed :: Value.composedItems rest

end

mutual

/- The values at the ends of nested lists. -/
def Value.leaves : Value → List Value
  | .list items => Value.leavesOf items
  | v => [v]

/- The leaves of all values in a list. -/
def Value.leavesOf : List Value → List Value
  | [] => []
  | v :: rest => v.leaves ++ Value.leavesOf rest

end

namespace Value

/- Texts in a row between brackets. -/
def bracketed
    (texts : List String) : String :=
  "[" ++ ", ".intercalate texts ++ "]"

theorem shown_list
    (items : List Value) :
    (list items).shown = bracketed (items.map shown) := by
  have hItems : shownItems items = items.map shown := by
    induction items with
    | nil => rfl
    | cons v rest ih => rw [shownItems, ih, List.map_cons]
  rw [shown, hItems, bracketed]

theorem composed_list
    (items : List Value) :
    (list items).composed =
      bracketed (items.map composed) := by
  have hItems : composedItems items = items.map composed := by
    induction items with
    | nil => rfl
    | cons v rest ih => rw [composedItems, ih, List.map_cons]
  rw [composed, hItems, bracketed]

theorem leaves_list
    (items : List Value) :
    (list items).leaves = items.flatMap leaves := by
  rw [leaves]
  induction items with
  | nil => rfl
  | cons v rest ih => rw [leavesOf, ih, List.flatMap_cons]

/- A value that is no list is its own leaf. -/
theorem composed_of_ne_list
    {v : Value}
    (hKind : v.kind ≠ .list) :
    v.composed = v.literal ∧ v.leaves = [v] := by
  cases v with
  | list items => exact absurd rfl hKind
  | _ => exact ⟨rfl, rfl⟩

mutual

/- What holds for leaves and for lists holds for values. -/
theorem induction_on_items
    {P : Value → Prop}
    (hLeaf : ∀ v, v.kind ≠ .list → P v)
    (hList : ∀ items, (∀ v ∈ items, P v) → P (list items)) :
    ∀ v, P v
  | list items => hList items (forall_mem_items hLeaf hList items)
  | null => hLeaf _ nofun
  | bool _ => hLeaf _ nofun
  | int _ => hLeaf _ nofun
  | float _ => hLeaf _ nofun
  | text _ => hLeaf _ nofun
  | map _ => hLeaf _ nofun
  | table _ => hLeaf _ nofun

theorem forall_mem_items
    {P : Value → Prop}
    (hLeaf : ∀ v, v.kind ≠ .list → P v)
    (hList : ∀ items, (∀ v ∈ items, P v) → P (list items)) :
    ∀ items : List Value, ∀ v ∈ items, P v
  | [] => nofun
  | v :: rest =>
      List.forall_mem_cons.mpr
        ⟨induction_on_items hLeaf hList v,
          forall_mem_items hLeaf hList rest⟩

end

/- There is no other way to write lists by their items. -/
theorem eq_composed
    {write : Value → String}
    (hLeaf : ∀ v, v.kind ≠ .list → write v = v.literal)
    (hList :
      ∀ items,
        write (list items) = bracketed (items.map write))
    (v : Value) :
    write v = v.composed := by
  induction v using induction_on_items with
  | hLeaf v hKind =>
      rw [hLeaf v hKind, (composed_of_ne_list hKind).1]
  | hList items ih =>
      rw [hList, composed_list, List.map_congr_left ih]

end Value

end CypherAssembly

------------------------------------------------------------
-- Literals of Lists
------------------------------------------------------------

namespace CypherAssembly

namespace Value

variable {write other : Value → String}
variable {items : List Value}

theorem length_bracketed_le
    (hLe :
      ∀ v ∈ items, (write v).length ≤ (other v).length) :
    (bracketed (items.map write)).length ≤
      (bracketed (items.map other)).length := by
  have hRow := length_intercalate_le ", " hLe
  simp only [bracketed, String.length_append]
  omega

theorem bracketed_eq_bracketed_iff
    (hLe :
      ∀ v ∈ items, (write v).length ≤ (other v).length) :
    bracketed (items.map write) =
        bracketed (items.map other) ↔
      ∀ v ∈ items, write v = other v := by
  rw [← intercalate_eq_intercalate_iff ", " hLe, bracketed,
    bracketed, String.append_left_inj, String.append_right_inj]

/- Composed values are like literals in both respects. -/
theorem composed_eq_shown_iff
    (v : Value) :
    v.composed.length ≤ v.shown.length ∧
      (v.composed = v.shown ↔
        ∀ leaf ∈ v.leaves, leaf.isAlike = true) := by
  induction v using induction_on_items with
  | hLeaf v hKind =>
      rcases composed_of_ne_list hKind with ⟨hText, hLeaves⟩
      rw [hText, hLeaves]
      refine ⟨length_literal_le v, ?_⟩
      rw [literal_eq_shown_iff, List.forall_mem_singleton]
  | hList items ih =>
      have hLe :
          ∀ v ∈ items, v.composed.length ≤ v.shown.length :=
        fun v hMem => (ih v hMem).1
      rw [composed_list, shown_list, leaves_list]
      refine ⟨length_bracketed_le hLe, ?_⟩
      rw [bracketed_eq_bracketed_iff hLe,
        List.forall_mem_flatMap]
      exact forall₂_congr fun v hMem => (ih v hMem).2

/-
  A list is written as the literals of its items in a row if
  and only if each item is shown like its literal.  It is
  composed, with all lists inside of it, if and only if this
  is true of the values at the ends.
-/
theorem list_is_composed_iff
    (items : List Value) :
    ((list items).literal =
        "[" ++ ", ".intercalate (items.map literal) ++ "]" ↔
      ∀ item ∈ items, item.isAlike = true) ∧
    ((list items).literal = (list items).composed ↔
      ∀ leaf ∈ (list items).leaves, leaf.isAlike = true) := by
  have hLiteral : (list items).literal = (list items).shown := rfl
  rw [hLiteral]
  constructor
  · rw [shown_list, eq_comm]
    refine
      (bracketed_eq_bracketed_iff fun v _ =>
        length_literal_le v).trans ?_
    simp only [literal_eq_shown_iff]
  · rw [eq_comm]
    exact (composed_eq_shown_iff _).2

/-
  A parameter in a list becomes a text, and neither truth
  values nor missing ones have their literals in it.
-/
theorem parameter_in_list_is_quoted :
    let items := [null, bool true, text "$p"]
    let composed :=
      "[" ++ ", ".intercalate (items.map literal) ++ "]"
    let node := Node.ofParts "n" [] [("k", list items)]
    node.render = .ok "(n \x7bk: [None, True, '$p']\x7d)" ∧
      (list items).literal = "[None, True, '$p']" ∧
      composed = "[null, true, $p]" ∧
      (list items).literal ≠ composed := by
  refine ⟨rfl, rfl, rfl, ?_⟩
  decide

end Value

end CypherAssembly
