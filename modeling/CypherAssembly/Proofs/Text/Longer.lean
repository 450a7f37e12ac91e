import CypherAssembly.Proofs.Text.Reading
import CypherAssembly.Text.Quoted

/-
  Ways of writing of which one is never longer.

  Key definitions include:
    * `Quoted.isVerbatim`

  Key theorems include:
    * `append_eq_append_iff_of_length_le`
    * `flatMap_eq_flatMap_iff`
    * `intercalate_eq_intercalate_iff`
    * `Quoted.write_eq_iff`

  What is written in one way may be longer than what is
  written in another way, but never shorter.  Then the same
  is true of rows of parts, and two rows are only the same
  text if all of their parts are: no part can make up for a
  difference in another one.  Characters between quotation
  marks are an example, since their escapes are longer than
  they are.
-/

------------------------------------------------------------
-- Rows
------------------------------------------------------------

namespace CypherAssembly

variable {A B : Type}

/- Texts in two parts are the same if both parts are. -/
theorem append_eq_append_iff_of_length_le
    {front back front' back' : List B}
    (hFront : front.length ≤ front'.length)
    (hBack : back.length ≤ back'.length) :
    front ++ back = front' ++ back' ↔
      front = front' ∧ back = back' := by
  constructor
  · intro hSame
    have hLength := congrArg List.length hSame
    rw [List.length_append, List.length_append] at hLength
    exact List.append_inj hSame (by omega)
  · rintro ⟨rfl, rfl⟩
    rfl

variable {write other : A → List B}
variable {given : List A}

theorem length_flatMap_le
    (hLe : ∀ a ∈ given, (write a).length ≤ (other a).length) :
    (given.flatMap write).length ≤
      (given.flatMap other).length := by
  induction given with
  | nil => exact Nat.le_refl 0
  | cons a rest ih =>
      rcases List.forall_mem_cons.mp hLe with ⟨hFirst, hRest⟩
      rw [List.flatMap_cons, List.flatMap_cons,
        List.length_append, List.length_append]
      exact Nat.add_le_add hFirst (ih hRest)

/- Parts in a row are the same if each of them is. -/
theorem flatMap_eq_flatMap_iff
    (hLe : ∀ a ∈ given, (write a).length ≤ (other a).length) :
    given.flatMap write = given.flatMap other ↔
      ∀ a ∈ given, write a = other a := by
  induction given with
  | nil => simp
  | cons a rest ih =>
      rcases List.forall_mem_cons.mp hLe with ⟨hFirst, hRest⟩
      rw [List.flatMap_cons, List.flatMap_cons,
        append_eq_append_iff_of_length_le hFirst
          (length_flatMap_le hRest),
        ih hRest, List.forall_mem_cons]

variable {escape : A → List A}

/- A list grows if its items are written in a row. -/
theorem length_le_length_flatMap
    (hPos : ∀ a, [a].length ≤ (escape a).length)
    (given : List A) :
    given.length ≤ (given.flatMap escape).length := by
  have hLe :=
    length_flatMap_le fun a (_ : a ∈ given) => hPos a
  rwa [List.flatMap_singleton'] at hLe

/- It is the same list if the items stand for themselves. -/
theorem flatMap_eq_self_iff
    (hPos : ∀ a, [a].length ≤ (escape a).length)
    (given : List A) :
    given.flatMap escape = given ↔
      ∀ a ∈ given, escape a = [a] := by
  have hSame :=
    flatMap_eq_flatMap_iff fun a (_ : a ∈ given) => hPos a
  rw [List.flatMap_singleton'] at hSame
  rw [eq_comm, hSame]
  exact forall₂_congr fun _ _ => eq_comm

end CypherAssembly

------------------------------------------------------------
-- Separated Rows
------------------------------------------------------------

namespace CypherAssembly

variable {A : Type}
variable {write other : A → List Char}
variable {given : List A}

/- A separator in front of a part does not matter. -/
theorem length_separator_append_le
    (separator : List Char)
    (hLe : ∀ a ∈ given, (write a).length ≤ (other a).length) :
    ∀ a ∈ given,
      (separator ++ write a).length ≤
        (separator ++ other a).length := by
  intro a hMem
  rw [List.length_append, List.length_append]
  exact Nat.add_le_add_left (hLe a hMem) _

theorem length_separated_le
    (separator : List Char)
    (hLe : ∀ a ∈ given, (write a).length ≤ (other a).length) :
    (separated separator write given).length ≤
      (separated separator other given).length := by
  cases given with
  | nil => exact Nat.le_refl 0
  | cons a rest =>
      rcases List.forall_mem_cons.mp hLe with ⟨hFirst, hRest⟩
      rw [separated, separated, List.length_append,
        List.length_append]
      exact
        Nat.add_le_add hFirst
          (length_flatMap_le
            (length_separator_append_le separator hRest))

theorem separated_eq_separated_iff
    (separator : List Char)
    (hLe : ∀ a ∈ given, (write a).length ≤ (other a).length) :
    separated separator write given =
        separated separator other given ↔
      ∀ a ∈ given, write a = other a := by
  cases given with
  | nil => simp [separated]
  | cons a rest =>
      rcases List.forall_mem_cons.mp hLe with ⟨hFirst, hRest⟩
      have hSeparated :=
        length_separator_append_le separator hRest
      rw [separated, separated,
        append_eq_append_iff_of_length_le hFirst
          (length_flatMap_le hSeparated),
        flatMap_eq_flatMap_iff hSeparated,
        List.forall_mem_cons]
      simp only [List.append_cancel_left_eq]

variable {text other : A → String}

/- Texts in a row are not longer if none of them is. -/
theorem length_intercalate_le
    (separator : String)
    (hLe : ∀ a ∈ given, (text a).length ≤ (other a).length) :
    (separator.intercalate (given.map text)).length ≤
      (separator.intercalate (given.map other)).length := by
  rw [← String.length_toList, ← String.length_toList,
    toList_intercalate_map, toList_intercalate_map]
  exact length_separated_le separator.toList hLe

/- Rows of texts are the same if each of the texts is. -/
theorem intercalate_eq_intercalate_iff
    (separator : String)
    (hLe : ∀ a ∈ given, (text a).length ≤ (other a).length) :
    separator.intercalate (given.map text) =
        separator.intercalate (given.map other) ↔
      ∀ a ∈ given, text a = other a := by
  rw [← String.toList_inj, toList_intercalate_map,
    toList_intercalate_map, separated_eq_separated_iff _ hLe]
  simp only [String.toList_inj]

end CypherAssembly

------------------------------------------------------------
-- Quoted Texts
------------------------------------------------------------

namespace CypherAssembly

namespace Quoted

/-
  Holds for characters that stand for themselves between
  apostrophes.
-/
def isVerbatim
    (c : Char) : Bool :=
  c != '\x27' && c != '\\' && isPrintable c

theorem two_le_length_code
    (c : Char) :
    2 ≤ (code c).length := by
  unfold code
  dsimp only
  split
  · simp
  · split <;> simp

/- No character is left out of a quoted text. -/
theorem length_escape_pos
    (quote c : Char) :
    1 ≤ (escape quote c).length := by
  have hCode := two_le_length_code c
  simp only [escape]
  repeat' split
  all_goals first
    | exact Nat.le_of_succ_le hCode
    | simp

theorem escape_of_isVerbatim
    {c : Char}
    (hVerbatim : isVerbatim c = true) :
    escape '\x27' c = [c] := by
  have hNe :
      ∀ d, isVerbatim d = false → c ≠ d := by
    rintro d hNot rfl
    rw [hVerbatim] at hNot
    cases hNot
  rw [isVerbatim, Bool.and_eq_true] at hVerbatim
  simp [escape, hVerbatim.2, hNe '\x27' rfl, hNe '\\' rfl,
    hNe '\n' rfl, hNe '\r' rfl, hNe '\t' rfl]

/- Several characters are written for any other one. -/
theorem two_le_length_escape
    {c : Char}
    (hNot : isVerbatim c = false) :
    2 ≤ (escape '\x27' c).length := by
  by_cases hMark : c = '\x27' ∨ c = '\\'
  · simp [escape, hMark]
  · rw [not_or] at hMark
    have hHidden : isPrintable c = false := by
      simpa [isVerbatim, hMark] using hNot
    have hCode := two_le_length_code c
    simp only [escape, hMark, hHidden]
    repeat' split
    all_goals first
      | exact hCode
      | contradiction
      | simp

theorem escape_eq_singleton_iff
    (c : Char) :
    escape '\x27' c = [c] ↔ isVerbatim c = true := by
  cases hVerbatim : isVerbatim c with
  | true => simp [escape_of_isVerbatim hVerbatim]
  | false =>
      have hLength := two_le_length_escape hVerbatim
      simp only [Bool.false_eq_true, iff_false]
      intro hSame
      rw [hSame] at hLength
      cases Nat.le_of_succ_le_succ hLength

/- A text grows by the marks at least. -/
theorem length_le_length_write
    (text : String) :
    text.length + 2 ≤ (write text).length := by
  have hLe :=
    length_le_length_flatMap
      (length_escape_pos (mark text.toList)) text.toList
  rw [String.length_toList] at hLe
  rw [write, String.length_ofList, List.length_append,
    List.length_cons, List.length_singleton]
  omega

/- There is no reason to use another mark. -/
theorem mark_of_isVerbatim
    {text : List Char}
    (hAll : ∀ c ∈ text, isVerbatim c = true) :
    mark text = '\x27' := by
  have hNone : text.contains '\x27' = false := by
    rw [List.contains_eq_mem, decide_eq_false_iff_not]
    intro hMem
    cases hAll _ hMem
  rw [mark, hNone, Bool.false_and]
  rfl

/-
  A text is quoted as it is if and only if each character of
  it stands for itself.
-/
theorem write_eq_iff
    (text : String) :
    write text = "'" ++ text ++ "'" ↔
      text.toList.all isVerbatim = true := by
  have hPlain :
      ("'" ++ text ++ "'").toList =
        '\x27' :: (text.toList ++ ['\x27']) := by
    simp
  have hEach :
      text.toList.flatMap (escape '\x27') = text.toList ↔
        ∀ c ∈ text.toList, isVerbatim c = true := by
    rw [flatMap_eq_self_iff (length_escape_pos '\x27')]
    simp only [escape_eq_singleton_iff]
  rw [List.all_eq_true, ← String.toList_inj, hPlain, write,
    String.toList_ofList]
  constructor
  · intro hSame
    rcases List.cons.inj hSame with ⟨hMark, hRest⟩
    rw [hMark] at hRest
    exact hEach.mp (List.append_cancel_right hRest)
  · intro hAll
    rw [mark_of_isVerbatim hAll, hEach.mpr hAll]
    rfl

end Quoted

end CypherAssembly
