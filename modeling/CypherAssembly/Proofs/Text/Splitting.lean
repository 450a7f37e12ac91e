import CypherAssembly.Proofs.Text.Inside

/-
  Texts taken apart at their separators.

  Key definitions include:
    * `partedAt`
    * `itemsOf`

  Key theorems include:
    * `partedAt_append_separator`
    * `itemsOf_intercalate`

  A separator is a comma and a space.  Texts without one
  inside come back when they are joined and taken apart
  again.  This needs an argument: a separator could also
  begin in one text and end behind it.
-/

------------------------------------------------------------
-- Separators
------------------------------------------------------------

namespace CypherAssembly

/- What stands between separators, from left to right. -/
def partedAt : List Char → List (List Char)
  | [] => [[]]
  | ',' :: ' ' :: rest => [] :: partedAt rest
  | c :: rest => (partedAt rest).modifyHead (c :: ·)

/- What stands between the separators of a text. -/
def itemsOf
    (text : String) : List String :=
  (partedAt text.toList).map String.ofList

/- A character that begins no separator is part of an item. -/
theorem partedAt_cons
    {c : Char}
    {rest : List Char}
    (hNone : ¬ [',', ' '] <+: c :: rest) :
    partedAt (c :: rest) =
      (partedAt rest).modifyHead (c :: ·) := by
  rw [partedAt]
  rintro after rfl rfl
  exact hNone ⟨after, rfl⟩

/- Characters without a separator inside are one item. -/
theorem partedAt_of_clean
    {chars : List Char}
    (hClean : ¬ [',', ' '] <:+: chars) :
    partedAt chars = [chars] := by
  induction chars with
  | nil => rfl
  | cons c rest ih =>
      rw [List.infix_cons_iff, not_or] at hClean
      rw [partedAt_cons hClean.1, ih hClean.2]
      rfl

/-
  Such characters in front of a separator are an item, too.
  No separator begins in them, since the one behind them
  does not begin with a space.
-/
theorem partedAt_append_separator
    {chars : List Char}
    (hClean : ¬ [',', ' '] <:+: chars)
    (rest : List Char) :
    partedAt (chars ++ ',' :: ' ' :: rest) =
      chars :: partedAt rest := by
  induction chars with
  | nil => rfl
  | cons c others ih =>
      rw [List.infix_cons_iff, not_or] at hClean
      have hNone :
          ¬ [',', ' '] <+:
            c :: (others ++ ',' :: ' ' :: rest) := by
        intro hPrefix
        rw [List.cons_prefix_cons] at hPrefix
        rcases hPrefix with ⟨rfl, hSpace⟩
        cases others with
        | nil => exact absurd hSpace (by simp)
        | cons next after =>
            rw [List.cons_append, List.cons_prefix_cons]
              at hSpace
            rcases hSpace with ⟨rfl, _⟩
            exact hClean.1 ⟨after, rfl⟩
      rw [List.cons_append, partedAt_cons hNone,
        ih hClean.2]
      rfl

/- Joined items can be told apart again. -/
theorem itemsOf_intercalate
    (texts : List String)
    (hSome : texts ≠ [])
    (hClean : ∀ text ∈ texts, ¬ IsInside ", " text) :
    itemsOf (", ".intercalate texts) = texts := by
  induction texts with
  | nil => exact absurd rfl hSome
  | cons text rest ih =>
      have hFirst : ¬ [',', ' '] <:+: text.toList :=
        hClean text List.mem_cons_self
      cases rest with
      | nil =>
          rw [String.intercalate_singleton, itemsOf,
            partedAt_of_clean hFirst]
          simp
      | cons next others =>
          have hRest := ih (List.cons_ne_nil next others)
            fun other hOther =>
              hClean other (List.mem_cons_of_mem _ hOther)
          have hChars :
              (text ++ ", " ++
                ", ".intercalate (next :: others)).toList =
                text.toList ++ ',' :: ' ' ::
                  (", ".intercalate
                    (next :: others)).toList := by
            simp
          rw [String.intercalate_cons_cons, itemsOf, hChars,
            partedAt_append_separator hFirst, List.map_cons,
            String.ofList_toList]
          exact congrArg (text :: ·) hRest

example :
    itemsOf "n.name, , count(r)" =
      ["n.name", "", "count(r)"] := by
  decide +kernel

end CypherAssembly
