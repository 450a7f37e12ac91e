/-
  Reading written parts off the front of a text.

  Key definitions include:
    * `StartsIn`
    * `IsReadable`
    * `separated`

  Key theorems include:
    * `eq_of_append_eq`
    * `toList_intercalate_map`
    * `IsReadable.pair`
    * `IsReadable.orBlank`
    * `IsReadable.flatMap`
    * `IsReadable.separated`

  A way of writing is readable if no two different things
  have the same written form in front of a text, whatever
  stands behind it.  Often a part ends only where a
  character follows that cannot belong to it, so what stands
  behind a part is limited by its first character.
-/

------------------------------------------------------------
-- Beginnings
------------------------------------------------------------

namespace CypherAssembly

/- The characters are none, or the first is one of some. -/
def StartsIn
    (some : Char → Bool)
    (cs : List Char) : Prop :=
  ∀ c ∈ cs.head?, some c = true

theorem startsIn_nil
    (p : Char → Bool) :
    StartsIn p [] := by
  intro c hMem
  cases hMem

theorem startsIn_cons
    {p : Char → Bool}
    {c : Char}
    (cs : List Char)
    (hFirst : p c = true) :
    StartsIn p (c :: cs) := by
  intro d hMem
  cases hMem
  exact hFirst

/- What holds for a character holds wherever it stands. -/
theorem forall_of_beq
    {p : Char → Bool}
    {d : Char}
    (hChar : p d = true) :
    ∀ c, (c == d) = true → p c = true := by
  intro c hSame
  rw [beq_iff_eq.mp hSame]
  exact hChar

namespace StartsIn

variable
  {p q : Char → Bool}
  {cs : List Char}

theorem mono
    (hStart : StartsIn p cs)
    (hMore : ∀ c, p c = true → q c = true) :
    StartsIn q cs :=
  fun c hMem => hMore c (hStart c hMem)

theorem append
    {ds : List Char}
    (hStart : StartsIn p cs)
    (hNext : StartsIn p ds) :
    StartsIn p (cs ++ ds) := by
  cases cs with
  | nil => exact hNext
  | cons c cs => exact startsIn_cons _ (hStart c rfl)

/- Nothing starts with a character that is not allowed. -/
theorem ne_cons
    (hStart : StartsIn p cs)
    {c : Char}
    (ds : List Char)
    (hNot : p c = false) :
    cs ≠ c :: ds := by
  rintro rfl
  have hFirst := hStart c rfl
  rw [hNot] at hFirst
  cases hFirst

end StartsIn

/- Two texts part where a run of characters has to end. -/
theorem eq_of_append_eq
    (p : Char → Bool)
    (first second rest others : List Char)
    (hFirst : ∀ c ∈ first, p c = true)
    (hSecond : ∀ c ∈ second, p c = true)
    (hRest : StartsIn (fun c => !p c) rest)
    (hOthers : StartsIn (fun c => !p c) others)
    (hEq : first ++ rest = second ++ others) :
    first = second ∧ rest = others := by
  induction first generalizing second with
  | nil =>
      cases second with
      | nil => exact ⟨rfl, hEq⟩
      | cons c second =>
          have hAllowed := hSecond c List.mem_cons_self
          exact
            absurd hEq (hRest.ne_cons _ (by simp [hAllowed]))
  | cons c first ih =>
      cases second with
      | nil =>
          have hAllowed := hFirst c List.mem_cons_self
          exact
            absurd hEq.symm
              (hOthers.ne_cons _ (by simp [hAllowed]))
      | cons d second =>
          simp only [List.cons_append, List.cons.injEq] at hEq
          rcases hEq with ⟨rfl, hEq⟩
          rcases ih second
              (fun e hMem =>
                hFirst e (List.mem_cons_of_mem _ hMem))
              (fun e hMem =>
                hSecond e (List.mem_cons_of_mem _ hMem))
              hEq with
            ⟨rfl, hSame⟩
          exact ⟨rfl, hSame⟩

end CypherAssembly

------------------------------------------------------------
-- Readable Ways of Writing
------------------------------------------------------------

namespace CypherAssembly

variable {A : Type}

/-
  Things that are good can be read off the front of a text,
  if one of the given characters follows or nothing does.
-/
def IsReadable
    (isGood : A → Prop)
    (write : A → List Char)
    (behind : Char → Bool) : Prop :=
  ∀ a b rest others,
    isGood a →
    isGood b →
    StartsIn behind rest →
    StartsIn behind others →
    write a ++ rest = write b ++ others →
      a = b ∧ rest = others

/- Parts with a separator between them. -/
def separated
    (separator : List Char)
    (write : A → List Char) : List A → List Char
  | [] => []
  | a :: rest =>
      write a ++ rest.flatMap (separator ++ write ·)

/- Texts in a row are separated in characters, too. -/
theorem toList_intercalate_map
    (separator : String)
    (write : A → String)
    (given : List A) :
    (separator.intercalate (given.map write)).toList =
      separated separator.toList (fun a => (write a).toList)
        given := by
  induction given with
  | nil => rfl
  | cons a rest ih =>
      cases rest with
      | nil => simp [separated]
      | cons b rest =>
          rw [List.map_cons, List.map_cons,
            String.intercalate_cons_cons, ← List.map_cons,
            String.toList_append, String.toList_append, ih]
          simp [separated]

namespace IsReadable

variable
  {B C : Type}
  {isGood : A → Prop}
  {write : A → List Char}
  {behind : Char → Bool}

/- What may follow can be limited further. -/
theorem limited
    (hReadable : IsReadable isGood write behind)
    (fewer : Char → Bool)
    (hFewer : ∀ c, fewer c = true → behind c = true) :
    IsReadable isGood write fewer :=
  fun a b rest others hA hB hRest hOthers hEq =>
    hReadable a b rest others hA hB (hRest.mono hFewer)
      (hOthers.mono hFewer) hEq

/- Only what is written for good things matters. -/
theorem congr
    (hReadable : IsReadable isGood write behind)
    (writeToo : A → List Char)
    (hSame : ∀ a, isGood a → write a = writeToo a) :
    IsReadable isGood writeToo behind := by
  intro a b rest others hA hB hRest hOthers hEq
  rw [← hSame a hA, ← hSame b hB] at hEq
  exact hReadable a b rest others hA hB hRest hOthers hEq

/- What can be read is less if fewer things are good. -/
theorem restrict
    (hReadable : IsReadable isGood write behind)
    (isBetter : A → Prop)
    (hBetter : ∀ a, isBetter a → isGood a) :
    IsReadable isBetter write behind :=
  fun a b rest others hA hB =>
    hReadable a b rest others (hBetter a hA) (hBetter b hB)

/- Things that are told apart by parts of them. -/
theorem comap
    (hReadable : IsReadable isGood write behind)
    {part : B → A}
    (hPart : Function.Injective part) :
    IsReadable (isGood ∘ part) (write ∘ part) behind := by
  intro a b rest others hA hB hRest hOthers hEq
  rcases hReadable _ _ rest others hA hB hRest hOthers hEq
    with ⟨hSame, hBehind⟩
  exact ⟨hPart hSame, hBehind⟩

/- The same characters can stand in front of everything. -/
theorem prefixed
    (hReadable : IsReadable isGood write behind)
    (front : List Char) :
    IsReadable isGood (front ++ write ·) behind := by
  intro a b rest others hA hB hRest hOthers hEq
  simp only [List.append_assoc, List.append_cancel_left_eq]
    at hEq
  exact hReadable a b rest others hA hB hRest hOthers hEq

/-
  A closing mark tells where the part before it ends, and
  then anything may follow.
-/
theorem closed
    (hReadable : IsReadable isGood write behind)
    (closing : Char)
    (hClosing : behind closing = true) :
    IsReadable isGood (write · ++ [closing])
      (fun _ => true) := by
  intro a b rest others hA hB _ _ hEq
  simp only [List.append_assoc] at hEq
  rcases hReadable a b _ _ hA hB
      (startsIn_cons rest hClosing)
      (startsIn_cons others hClosing) hEq with
    ⟨hSame, hBehind⟩
  exact ⟨hSame, (List.cons.inj hBehind).2⟩

/- One part can stand behind another one that it can end. -/
theorem pair
    {isGoodToo : B → Prop}
    {writeToo : B → List Char}
    {last : Char → Bool}
    (hReadable : IsReadable isGood write behind)
    (hToo : IsReadable isGoodToo writeToo last)
    (hStart : ∀ b, isGoodToo b → StartsIn behind (writeToo b))
    (hLast : ∀ c, last c = true → behind c = true) :
    IsReadable
      (fun x : A × B => isGood x.1 ∧ isGoodToo x.2)
      (fun x => write x.1 ++ writeToo x.2)
      last := by
  rintro ⟨a, b⟩ ⟨a', b'⟩ rest others hFirst hSecond hRest
    hOthers hEq
  simp only [List.append_assoc] at hEq
  rcases hReadable a a' _ _ hFirst.1 hSecond.1
      ((hStart b hFirst.2).append (hRest.mono hLast))
      ((hStart b' hSecond.2).append (hOthers.mono hLast))
      hEq with
    ⟨rfl, hBehind⟩
  rcases hToo b b' rest others hFirst.2 hSecond.2 hRest
      hOthers hBehind with
    ⟨rfl, hSame⟩
  exact ⟨rfl, hSame⟩

/-
  One thing can be written without any characters if no
  other one begins with what can follow.
-/
theorem orBlank
    (blank : A)
    (hReadable :
      IsReadable (fun a => a ≠ blank ∧ isGood a) write
        behind)
    (hBlank : write blank = [])
    (hBegin :
      ∀ a, a ≠ blank → isGood a →
        ∃ c cs, write a = c :: cs ∧ behind c = false) :
    IsReadable isGood write behind := by
  have hOther :
      ∀ a rest others,
        a ≠ blank → isGood a → StartsIn behind others →
          write a ++ rest ≠ others := by
    intro a rest others hSome hA hOthers hEq
    rcases hBegin a hSome hA with ⟨c, cs, hWrite, hNot⟩
    rw [hWrite] at hEq
    exact hOthers.ne_cons _ hNot hEq.symm
  intro a b rest others hA hB hRest hOthers hEq
  by_cases hNone : a = blank
  · subst hNone
    by_cases hNoneToo : b = a
    · subst hNoneToo
      exact ⟨rfl, List.append_cancel_left hEq⟩
    · rw [hBlank] at hEq
      exact
        absurd hEq.symm
          (hOther b others _ hNoneToo hB hRest)
  · by_cases hNoneToo : b = blank
    · subst hNoneToo
      rw [hBlank] at hEq
      exact absurd hEq (hOther a rest _ hNone hA hOthers)
    · exact
        hReadable a b rest others ⟨hNone, hA⟩
          ⟨hNoneToo, hB⟩ hRest hOthers hEq

/-
  Any number of parts can be read if each of them ends the
  one before by its first character, which is none of those
  that can follow the last one.
-/
theorem flatMap
    (hReadable : IsReadable isGood write behind)
    (last : Char → Bool)
    (hLast : ∀ c, last c = true → behind c = true)
    (hBegin :
      ∀ a, isGood a →
        ∃ c cs,
          write a = c :: cs ∧
            behind c = true ∧ last c = false) :
    IsReadable
      (fun given : List A => ∀ a ∈ given, isGood a)
      (fun given => given.flatMap write)
      last := by
  have hStart :
      ∀ given : List A,
        (∀ a ∈ given, isGood a) →
          StartsIn behind (given.flatMap write) := by
    intro given hGood
    cases given with
    | nil => exact startsIn_nil behind
    | cons a given =>
        rcases hBegin a (hGood a List.mem_cons_self) with
          ⟨c, cs, hWrite, hFirst, _⟩
        rw [List.flatMap_cons, hWrite]
        exact startsIn_cons _ hFirst
  have hOther :
      ∀ a rest others,
        isGood a → StartsIn last others →
          write a ++ rest ≠ others := by
    intro a rest others hA hOthers hEq
    rcases hBegin a hA with ⟨c, cs, hWrite, _, hNot⟩
    rw [hWrite] at hEq
    exact hOthers.ne_cons _ hNot hEq.symm
  intro first second rest others hFirst hSecond hRest
    hOthers hEq
  change first.flatMap write ++ rest =
    second.flatMap write ++ others at hEq
  induction first generalizing second with
  | nil =>
      cases second with
      | nil => exact ⟨rfl, hEq⟩
      | cons b second =>
          have hB := hSecond b List.mem_cons_self
          rw [List.flatMap_cons, List.append_assoc] at hEq
          exact absurd hEq.symm (hOther b _ rest hB hRest)
  | cons a first ih =>
      have hA := hFirst a List.mem_cons_self
      have hFirstRest :=
        fun c hMem => hFirst c (List.mem_cons_of_mem a hMem)
      rw [List.flatMap_cons, List.append_assoc] at hEq
      cases second with
      | nil => exact absurd hEq (hOther a _ others hA hOthers)
      | cons b second =>
          have hB := hSecond b List.mem_cons_self
          have hSecondRest :=
            fun c hMem =>
              hSecond c (List.mem_cons_of_mem b hMem)
          rw [List.flatMap_cons, List.append_assoc] at hEq
          rcases hReadable a b _ _ hA hB
              ((hStart first hFirstRest).append
                (hRest.mono hLast))
              ((hStart second hSecondRest).append
                (hOthers.mono hLast))
              hEq with
            ⟨rfl, hBehind⟩
          rcases ih second hFirstRest hSecondRest hBehind with
            ⟨rfl, hSame⟩
          exact ⟨rfl, hSame⟩

/-
  Parts with separators can be read if a separator ends the
  part before it and cannot follow the last one.
-/
theorem separated
    (hReadable : IsReadable isGood write behind)
    (mark : Char)
    (filler : List Char)
    (last : Char → Bool)
    (hMark : behind mark = true)
    (hLast :
      ∀ c, last c = true →
        (behind c && c != mark) = true) :
    IsReadable
      (fun given : List A =>
        given ≠ [] ∧ ∀ a ∈ given, isGood a)
      (CypherAssembly.separated (mark :: filler) write)
      last := by
  have hFewer : ∀ c, last c = true → behind c = true :=
    fun c hBehind =>
      (Bool.and_eq_true_iff.mp (hLast c hBehind)).1
  have hNot : last mark = false := by
    cases hBehind : last mark with
    | false => rfl
    | true => simpa using hLast mark hBehind
  have hMore :
      IsReadable
        (fun given : List A => ∀ a ∈ given, isGood a)
        (List.flatMap (mark :: filler ++ write ·))
        last :=
    (hReadable.prefixed (mark :: filler)).flatMap last hFewer
      (fun a _ => ⟨mark, filler ++ write a, rfl, hMark, hNot⟩)
  have hStart :
      ∀ given : List A,
        StartsIn behind
          (given.flatMap (mark :: filler ++ write ·)) := by
    intro given
    cases given with
    | nil => exact startsIn_nil behind
    | cons a given => exact startsIn_cons _ hMark
  have hBoth :=
    hReadable.pair hMore (fun given _ => hStart given) hFewer
  rintro first second rest others ⟨hSome, hFirst⟩
    ⟨hSomeToo, hSecond⟩ hRest hOthers hEq
  cases first with
  | nil => exact absurd rfl hSome
  | cons a first =>
      cases second with
      | nil => exact absurd rfl hSomeToo
      | cons b second =>
          rcases hBoth (a, first) (b, second) rest others
              (List.forall_mem_cons.mp hFirst)
              (List.forall_mem_cons.mp hSecond)
              hRest hOthers hEq with
            ⟨hSame, hBehind⟩
          cases hSame
          exact ⟨rfl, hBehind⟩

end IsReadable

end CypherAssembly
