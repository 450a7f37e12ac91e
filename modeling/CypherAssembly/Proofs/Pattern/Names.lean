import CypherAssembly.Name
import CypherAssembly.Proofs.Text.Reading

/-
  Reading names in patterns.

  Key definitions include:
    * `endsName`
    * `namesChars`

  Key theorems include:
    * `isReadable_name`
    * `isReadable_var`
    * `isReadable_names`

  A plain name goes on as long as there are characters for
  it, and a quoted name goes up to the next backtick.  The
  newline that may follow either of them is part of the name
  since nothing else in a pattern starts with a newline.
-/

------------------------------------------------------------
-- Single Names
------------------------------------------------------------

namespace CypherAssembly

/- Characters that no name has or starts with. -/
def endsName
    (c : Char) : Bool :=
  !isNameChar c && c != '\n' && c != '\x60'

theorem endsName_of_isNameChar
    (c : Char)
    (hName : isNameChar c = true) :
    endsName c = false := by
  simp [endsName, hName]

theorem isNameChar_of_endsName
    (c : Char)
    (hEnds : endsName c = true) :
    (!isNameChar c) = true := by
  simp only [endsName, Bool.and_eq_true] at hEnds
  exact hEnds.1.1

theorem isNameChar_of_isNameStart
    (c : Char)
    (hStart : isNameStart c = true) :
    isNameChar c = true := by
  simp only [isNameStart, isNameChar, Char.isAlphanum,
    Bool.or_eq_true] at hStart ⊢
  rcases hStart with hAlpha | hUnderscore
  · exact Or.inl (Or.inl hAlpha)
  · exact Or.inr hUnderscore

/- A plain name has nothing but characters for names. -/
theorem isNameChar_of_isPlainName
    {cs : List Char}
    (hPlain : isPlainName cs = true) :
    ∃ c rest,
      cs = c :: rest ∧ ∀ d ∈ cs, isNameChar d = true := by
  cases cs with
  | nil => cases hPlain
  | cons c rest =>
      simp only [isPlainName, Bool.and_eq_true,
        List.all_eq_true] at hPlain
      refine ⟨c, rest, rfl, ?_⟩
      intro d hMem
      rcases List.mem_cons.mp hMem with rfl | hRest
      · exact isNameChar_of_isNameStart d hPlain.1
      · exact hPlain.2 d hRest

/- A backtick closes a quoted name and is not in it. -/
theorem exists_of_isQuotedRest
    {cs : List Char}
    (hQuoted : isQuotedRest cs = true) :
    ∃ body,
      cs = body ++ ['\x60'] ∧
        ∀ c ∈ body, (c != '\x60') = true := by
  fun_induction isQuotedRest cs with
  | case1 => cases hQuoted
  | case2 => cases hQuoted
  | case3 c d =>
      simp only [Bool.and_eq_true, beq_iff_eq] at hQuoted
      rcases hQuoted with ⟨hBody, rfl⟩
      exact ⟨[c], rfl, by simpa using hBody⟩
  | case4 c d e rest ih =>
      simp only [Bool.and_eq_true] at hQuoted
      rcases ih hQuoted.2 with ⟨body, hSplit, hBody⟩
      refine ⟨c :: body, by rw [hSplit]; rfl, ?_⟩
      exact List.forall_mem_cons.mpr ⟨hQuoted.1, hBody⟩

/- Quoted names are recognised by their first character. -/
theorem exists_of_isQuotedName
    {cs : List Char}
    (hQuoted : isQuotedName cs = true) :
    ∃ body,
      cs = '\x60' :: (body ++ ['\x60']) ∧
        ∀ c ∈ body, (c != '\x60') = true := by
  cases cs with
  | nil => cases hQuoted
  | cons c rest =>
      simp only [isQuotedName, Bool.and_eq_true,
        beq_iff_eq] at hQuoted
      rcases hQuoted with ⟨rfl, hRest⟩
      rcases exists_of_isQuotedRest hRest with
        ⟨body, hSplit, hBody⟩
      exact ⟨body, by rw [hSplit], hBody⟩

/- Names without a newline behind them. -/
theorem isReadable_bareName :
    IsReadable (fun cs => isBareName cs = true) id
      (fun c => !isNameChar c) := by
  have hMixed :
      ∀ first second rest others : List Char,
        isPlainName first = true →
          isQuotedName second = true →
            first ++ rest ≠ second ++ others := by
    intro first second rest others hPlain hQuoted hEq
    rcases isNameChar_of_isPlainName hPlain with
      ⟨c, cs, rfl, hChars⟩
    rcases exists_of_isQuotedName hQuoted with
      ⟨body, rfl, _⟩
    have hFirst := hChars c List.mem_cons_self
    rw [(List.cons.inj hEq).1] at hFirst
    revert hFirst
    decide
  intro first second rest others hFirst hSecond hRest
    hOthers hEq
  simp only [isBareName, Bool.or_eq_true] at hFirst hSecond
  -- plain names end where another character stands, quoted
  -- ones at the next backtick
  rcases hFirst with hFirst | hFirst <;>
    rcases hSecond with hSecond | hSecond
  · rcases isNameChar_of_isPlainName hFirst with
      ⟨_, _, _, hChars⟩
    rcases isNameChar_of_isPlainName hSecond with
      ⟨_, _, _, hCharsToo⟩
    exact
      eq_of_append_eq isNameChar first second rest others
        hChars hCharsToo hRest hOthers hEq
  · exact absurd hEq (hMixed _ _ _ _ hFirst hSecond)
  · exact absurd hEq.symm (hMixed _ _ _ _ hSecond hFirst)
  · rcases exists_of_isQuotedName hFirst with
      ⟨body, rfl, hBody⟩
    rcases exists_of_isQuotedName hSecond with
      ⟨other, rfl, hOther⟩
    have hBodies :
        body ++ '\x60' :: rest = other ++ '\x60' :: others := by
      simpa using hEq
    rcases eq_of_append_eq (· != '\x60') body other _ _ hBody
        hOther (startsIn_cons _ rfl)
        (startsIn_cons _ rfl) hBodies with
      ⟨rfl, hRests⟩
    exact ⟨rfl, (List.cons.inj hRests).2⟩

/- A name is a bare name or has a newline behind it. -/
theorem exists_of_isName
    {name : String}
    (hName : isName name = true) :
    ∃ bare tail,
      name.toList = bare ++ tail ∧
        isBareName bare = true ∧
          (tail = [] ∨ tail = ['\n']) := by
  simp only [isName, Bool.or_eq_true, Bool.and_eq_true,
    beq_iff_eq] at hName
  rcases hName with hBare | ⟨hLast, hBare⟩
  · exact ⟨name.toList, [], by simp, hBare, Or.inl rfl⟩
  · rcases List.getLast?_eq_some_iff.mp hLast with
      ⟨bare, hChars⟩
    rw [hChars, List.dropLast_concat] at hBare
    exact ⟨bare, ['\n'], hChars, hBare, Or.inr rfl⟩

/- Names begin with a character that ends no other name. -/
theorem exists_first_of_isName
    {name : String}
    (hName : isName name = true) :
    ∃ c cs, name.toList = c :: cs ∧ endsName c = false := by
  rcases exists_of_isName hName with
    ⟨bare, tail, hChars, hBare, _⟩
  simp only [isBareName, Bool.or_eq_true] at hBare
  rcases hBare with hPlain | hQuoted
  · rcases isNameChar_of_isPlainName hPlain with
      ⟨c, rest, rfl, hBare⟩
    exact
      ⟨c, rest ++ tail, hChars,
        endsName_of_isNameChar c (hBare c List.mem_cons_self)⟩
  · rcases exists_of_isQuotedName hQuoted with
      ⟨body, rfl, _⟩
    exact ⟨_, _, hChars, by decide⟩

theorem isReadable_name :
    IsReadable (fun name : String => isName name = true)
      String.toList endsName := by
  intro first second rest others hFirst hSecond hRest
    hOthers hEq
  rcases exists_of_isName hFirst with
    ⟨bare, tail, hChars, hBare, hTail⟩
  rcases exists_of_isName hSecond with
    ⟨bareToo, tailToo, hCharsToo, hBareToo, hTailToo⟩
  have hStart :
      ∀ closing cs : List Char,
        (closing = [] ∨ closing = ['\n']) → StartsIn endsName cs →
          StartsIn (fun c => !isNameChar c) (closing ++ cs) := by
    rintro closing cs (rfl | rfl) hBehind
    · exact hBehind.mono isNameChar_of_endsName
    · exact startsIn_cons _ rfl
  rw [hChars, hCharsToo, List.append_assoc,
    List.append_assoc] at hEq
  rcases isReadable_bareName bare bareToo _ _ hBare hBareToo
      (hStart tail rest hTail hRest)
      (hStart tailToo others hTailToo hOthers) hEq with
    ⟨rfl, hTails⟩
  have hNewline :
      ∀ cs ds,
        StartsIn endsName cs → cs ≠ '\n' :: ds :=
    fun cs ds hBehind => hBehind.ne_cons ds rfl
  rw [← String.toList_inj, hChars, hCharsToo]
  rcases hTail with rfl | rfl <;>
    rcases hTailToo with rfl | rfl
  · exact ⟨rfl, hTails⟩
  · exact absurd hTails (hNewline rest others hRest)
  · exact absurd hTails.symm (hNewline others rest hOthers)
  · exact ⟨rfl, (List.cons.inj hTails).2⟩

end CypherAssembly

------------------------------------------------------------
-- Variables and Lists of Names
------------------------------------------------------------

namespace CypherAssembly

/- Names behind a colon, with a separator between them. -/
def namesChars
    (separator : Char)
    (names : List String) : List Char :=
  if names.isEmpty then []
  else ':' :: separated [separator] String.toList names

/- A variable can be left out. -/
theorem isReadable_var :
    IsReadable
      (fun name : String => name = "" ∨ isName name = true)
      String.toList endsName := by
  apply IsReadable.orBlank ""
  · apply isReadable_name.restrict
    rintro name ⟨hSome, hVar⟩
    exact hVar.resolve_left hSome
  · rfl
  · intro name hSome hVar
    exact exists_first_of_isName (hVar.resolve_left hSome)

theorem namesChars_of_ne_nil
    (separator : Char)
    (names : List String)
    (hSome : names ≠ []) :
    namesChars separator names =
      ':' :: separated [separator] String.toList names := by
  simp [namesChars, hSome]

/-
  Names with a separator that ends a name can be read if
  neither it nor a colon follows.
-/
theorem isReadable_names
    (separator : Char)
    (hSeparator : endsName separator = true) :
    IsReadable
      (fun names : List String =>
        ∀ name ∈ names, isName name = true)
      (namesChars separator)
      (fun c => endsName c && c != separator && c != ':') := by
  have hSeparated :=
    isReadable_name.separated separator []
      (fun c => endsName c && c != separator && c != ':')
      hSeparator
      (fun c hBehind => (Bool.and_eq_true_iff.mp hBehind).1)
  apply IsReadable.orBlank []
  · apply (hSeparated.prefixed [':']).congr
    rintro names ⟨hSome, _⟩
    exact (namesChars_of_ne_nil separator names hSome).symm
  · rfl
  · intro names hSome _
    rw [namesChars_of_ne_nil separator names hSome]
    exact ⟨':', _, rfl, by simp⟩

end CypherAssembly
