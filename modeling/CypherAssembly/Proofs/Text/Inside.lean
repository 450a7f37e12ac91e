import Mathlib.Data.List.Basic
import CypherAssembly.Proofs.Text.Lines

/-
  Texts inside of other texts.

  Key definitions include:
    * `IsInside`
    * `Block.widened`

  Key theorems include:
    * `isInside_join`
    * `isInside_intercalate`
    * `isInside_trimSuffix`
    * `Block.exists_indent_eq`
    * `Block.isInside_call`
    * `Block.widened_widened`

  A block moves whatever is inside of its text, whether it
  is a line of the query or in the middle of one.  So a text
  comes out wider than it was by two columns behind each of
  its newlines, and as it was if there are none.
-/

------------------------------------------------------------
-- Inside of Texts
------------------------------------------------------------

namespace CypherAssembly

/- A text stands in another one, in one piece. -/
def IsInside
    (part whole : String) : Prop :=
  part.toList <:+: whole.toList

instance
    (part whole : String) :
    Decidable (IsInside part whole) :=
  inferInstanceAs
    (Decidable (part.toList <:+: whole.toList))

theorem IsInside.trans
    {part middle whole : String}
    (hPart : IsInside part middle)
    (hMiddle : IsInside middle whole) :
    IsInside part whole :=
  List.IsInfix.trans hPart hMiddle

theorem isInside_around
    (front part back : String) :
    IsInside part (front ++ part ++ back) := by
  refine ⟨front.toList, back.toList, ?_⟩
  rw [String.toList_append, String.toList_append]

theorem isInside_append_left
    (front part : String) :
    IsInside part (front ++ part) := by
  have hAround := isInside_around front part ""
  rwa [String.append_empty] at hAround

theorem isInside_append_right
    (part back : String) :
    IsInside part (part ++ back) := by
  have hAround := isInside_around "" part back
  rwa [String.empty_append] at hAround

/- Each of several texts is inside of all of them. -/
theorem isInside_join
    {text : String}
    {texts : List String}
    (hMem : text ∈ texts) :
    IsInside text (String.join texts) := by
  rcases List.append_of_mem hMem with ⟨before, after, rfl⟩
  rw [String.join_append, String.join_cons,
    ← String.append_assoc]
  exact isInside_around _ text _

/- So it is if something is put between them. -/
theorem isInside_intercalate
    {text : String}
    {texts : List String}
    (separator : String)
    (hMem : text ∈ texts) :
    IsInside text (separator.intercalate texts) := by
  induction texts with
  | nil => cases hMem
  | cons first rest ih =>
      cases rest with
      | nil =>
          rw [List.mem_singleton.mp hMem,
            String.intercalate_singleton]
          exact List.infix_refl _
      | cons next rest =>
          rw [String.intercalate_cons_cons]
          rcases List.mem_cons.mp hMem with rfl | hRest
          · rw [String.append_assoc]
            exact isInside_append_right text _
          · exact (ih hRest).trans (isInside_append_left _ _)

/- A newline at the end is not part of an unended text. -/
theorem isInside_trimSuffix
    {part whole : String}
    (hUnended : IsUnended part)
    (hInside : IsInside part whole) :
    IsInside part (trimSuffix "\n" whole) := by
  rcases trimSuffix_eq_or "\n" whole with hSame | hTrimmed
  · rwa [hSame]
  · rw [← hTrimmed, IsInside, String.toList_append]
      at hInside
    rcases List.infix_concat_iff.mp hInside with
      hSuffix | hBefore
    · have hSome : part.toList ≠ [] := by
        rintro hNone
        rcases hUnended with ⟨c, hLast, _⟩
        simp [hNone] at hLast
      have hNewline : "\n".toList <:+ part.toList :=
        List.suffix_of_suffix_length_le
          (List.suffix_append _ _) hSuffix
          (List.length_pos_iff.mpr hSome)
      exact
        absurd hNewline (not_suffix_of_isUnended hUnended)
    · exact hBefore

end CypherAssembly

------------------------------------------------------------
-- Wider Texts
------------------------------------------------------------

namespace CypherAssembly

namespace Block

/- So many columns more behind a newline. -/
def widen
    (columns : Nat)
    (c : Char) : List Char :=
  if c = '\n' then '\n' :: List.replicate columns ' '
  else [c]

/- A text with so many columns more behind each newline. -/
def widened
    (columns : Nat)
    (text : String) : String :=
  String.ofList (text.toList.flatMap (widen columns))

theorem toList_widened
    (columns : Nat)
    (text : String) :
    (widened columns text).toList =
      text.toList.flatMap (widen columns) :=
  String.toList_ofList

theorem widened_append
    (columns : Nat)
    (first second : String) :
    widened columns (first ++ second) =
      widened columns first ++ widened columns second := by
  simp [widened]

/- Without newlines, a text is as wide as it was. -/
theorem widened_of_no_newline
    (columns : Nat)
    (text : String)
    (hLine : '\n' ∉ text.toList) :
    widened columns text = text := by
  have hEach :
      ∀ c ∈ text.toList, widen columns c = [c] := by
    intro c hMem
    apply if_neg
    rintro rfl
    exact hLine hMem
  rw [← String.toList_inj, toList_widened,
    List.flatMap_congr hEach, List.flatMap_singleton']

/- So it is if no columns are put in. -/
theorem widened_zero
    (text : String) :
    widened 0 text = text := by
  have hEach : ∀ c ∈ text.toList, widen 0 c = [c] := by
    intro c _
    by_cases hNewline : c = '\n'
    · rw [hNewline]
      rfl
    · exact if_neg hNewline
  rw [← String.toList_inj, toList_widened,
    List.flatMap_congr hEach, List.flatMap_singleton']

/- Columns that are put in twice add up. -/
theorem widened_widened
    (outer inner : Nat)
    (text : String) :
    widened outer (widened inner text) =
      widened (outer + inner) text := by
  have hEach :
      ∀ c ∈ text.toList,
        (widen inner c).flatMap (widen outer) =
          widen (outer + inner) c := by
    intro c _
    by_cases hNewline : c = '\n'
    · simp [widen, hNewline, List.flatMap_replicate,
        ← List.replicate_append_replicate]
    · simp [widen, hNewline]
  rw [← String.toList_inj, toList_widened, toList_widened,
    toList_widened, List.flatMap_assoc,
    List.flatMap_congr hEach]

/- What is inside of a text is inside of the wider one. -/
theorem isInside_widened
    (columns : Nat)
    {part whole : String}
    (hInside : IsInside part whole) :
    IsInside (widened columns part)
      (widened columns whole) := by
  rcases hInside with ⟨front, back, hWhole⟩
  refine
    ⟨front.flatMap (widen columns),
      back.flatMap (widen columns), ?_⟩
  simp only [toList_widened, ← hWhole, List.flatMap_append]

end Block

end CypherAssembly

------------------------------------------------------------
-- Inside of Blocks
------------------------------------------------------------

namespace CypherAssembly

namespace Block

/- All of a text is moved but a newline at its end. -/
theorem exists_indent_eq
    (text : String) :
    ∃ back,
      indent text =
        widened 2 (trimSuffix "\n" text) ++ back := by
  by_cases hEnds : "\n".toList <:+ text.toList
  · rcases exists_append_of_suffix hEnds with ⟨body, rfl⟩
    refine ⟨"\n", ?_⟩
    rw [indent_append_newline, trimSuffix_append]
    rfl
  · refine ⟨"", ?_⟩
    rw [indent_of_not_suffix text hEnds,
      trimSuffix_of_not_suffix hEnds, String.append_empty]
    rfl

/- A block moves what is inside of it by two columns. -/
theorem isInside_call
    {part text : String}
    (hUnended : IsUnended part)
    (hInside : IsInside part text) :
    IsInside (widened 2 part) (call text) := by
  rcases exists_indent_eq text with ⟨back, hIndent⟩
  have hTrimmed :=
    isInside_widened 2
      (isInside_trimSuffix hUnended hInside)
  have hInIndent : IsInside (widened 2 part) (indent text) := by
    rw [hIndent]
    exact hTrimmed.trans (isInside_append_right _ back)
  exact hInIndent.trans (isInside_around _ _ _)

end Block

end CypherAssembly
