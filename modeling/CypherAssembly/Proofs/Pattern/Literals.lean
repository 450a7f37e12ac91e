import CypherAssembly.Proofs.Pattern.Names
import CypherAssembly.Value

/-
  Reading numbers and values in patterns.

  Key definitions include:
    * `boundChars`
    * `hopsChars`
    * `Value.isLegible`
    * `propertyChars`
    * `propertiesChars`

  Key theorems include:
    * `isReadable_hops`
    * `isReadable_literal`
    * `isReadable_properties`

  A value without apostrophes around it is a single word,
  and words of different kinds begin differently.  A quoted
  text goes up to the next apostrophe, so it can be read if
  there is no apostrophe in it.
-/

------------------------------------------------------------
-- Numbers
------------------------------------------------------------

namespace CypherAssembly

/- The characters of whole numbers. -/
def isNumberChar
    (c : Char) : Bool :=
  c.isDigit || c == '-'

namespace Decimal

theorem isNumberChar_of_mem_ofInt
    (n : Int)
    (c : Char)
    (hMem : c ∈ (ofInt n).toList) :
    isNumberChar c = true := by
  cases n with
  | ofNat n =>
      have hDigit := isDigit_of_mem_ofNat n c hMem
      simp [isNumberChar, hDigit]
  | negSucc n =>
      rw [ofInt, String.toList_append] at hMem
      rcases List.mem_append.mp hMem with hSign | hDigits
      · have hMinus : c = '-' := by
          simpa using hSign
        simp [isNumberChar, hMinus]
      · have hDigit := isDigit_of_mem_ofNat _ c hDigits
        simp [isNumberChar, hDigit]

/- No natural number has the sign of a negative one. -/
theorem ofNat_ne_minus
    (m n : Nat) :
    ofNat m ≠ "-" ++ ofNat n := by
  intro hEq
  have hMem : '-' ∈ (ofNat m).toList := by
    simp [hEq]
  have hDigit := isDigit_of_mem_ofNat m '-' hMem
  revert hDigit
  decide

theorem ofInt_injective
    (m n : Int)
    (hEq : ofInt m = ofInt n) :
    m = n := by
  cases m with
  | ofNat m =>
      cases n with
      | ofNat n => rw [ofNat_injective m n hEq]
      | negSucc n => exact absurd hEq (ofNat_ne_minus m _)
  | negSucc m =>
      cases n with
      | ofNat n => exact absurd hEq.symm (ofNat_ne_minus n _)
      | negSucc n =>
          have hDigits : ofNat (m + 1) = ofNat (n + 1) := by
            rw [← String.toList_inj]
            simpa [ofInt, ← String.toList_inj] using hEq
          have hSame := ofNat_injective _ _ hDigits
          rw [Nat.succ.inj hSame]

theorem ofInt_ne_empty
    (n : Int) :
    (ofInt n).toList ≠ [] := by
  cases n with
  | ofNat n =>
      simp [ofInt, ofNat, Nat.toDigits_ne_nil]
  | negSucc n => simp [ofInt]

end Decimal

/- A bound on the number of hops, if there is one. -/
def boundChars : Option Int → List Char
  | none => []
  | some n => (Decimal.ofInt n).toList

theorem boundChars_injective
    (first second : Option Int)
    (hEq : boundChars first = boundChars second) :
    first = second := by
  cases first with
  | none =>
      cases second with
      | none => rfl
      | some n => exact absurd hEq.symm (Decimal.ofInt_ne_empty n)
  | some m =>
      cases second with
      | none => exact absurd hEq (Decimal.ofInt_ne_empty m)
      | some n =>
          have hText := String.toList_inj.mp hEq
          rw [Decimal.ofInt_injective m n hText]

theorem isReadable_bound :
    IsReadable (fun _ : Option Int => True) boundChars
      (fun c => !isNumberChar c) := by
  have hChars :
      ∀ bound, ∀ c ∈ boundChars bound,
        isNumberChar c = true := by
    intro bound c hMem
    cases bound with
    | none => cases hMem
    | some n =>
        exact Decimal.isNumberChar_of_mem_ofInt n c hMem
  intro first second rest others _ _ hRest hOthers hEq
  rcases eq_of_append_eq isNumberChar _ _ rest others
      (hChars first) (hChars second) hRest hOthers hEq with
    ⟨hSame, hBehind⟩
  exact ⟨boundChars_injective first second hSame, hBehind⟩

/- Both bounds on the number of hops, if there is any. -/
def hopsChars
    (bounds : Option Int × Option Int) : List Char :=
  if bounds = (none, none) then []
  else
    '*' :: (boundChars bounds.1 ++ '.' :: '.' ::
      boundChars bounds.2)

theorem isReadable_hops :
    IsReadable (fun _ : Option Int × Option Int => True)
      hopsChars
      (fun c => !isNumberChar c && c != '*') := by
  have hNumber :
      ∀ c,
        (!isNumberChar c && c != '*') = true →
          (!isNumberChar c) = true := by
    intro c hBehind
    exact (Bool.and_eq_true_iff.mp hBehind).1
  have hBounds :=
    isReadable_bound.pair
      ((isReadable_bound.limited _ hNumber).prefixed
        ['.', '.'])
      (fun _ _ => startsIn_cons _ rfl) hNumber
  apply IsReadable.orBlank (none, none)
  · have hSome :=
      (hBounds.prefixed ['*']).restrict
        (fun bounds => bounds ≠ (none, none) ∧ True)
        (fun _ _ => ⟨trivial, trivial⟩)
    apply hSome.congr
    rintro bounds ⟨hSome, _⟩
    simp [hopsChars, hSome]
  · rfl
  · intro bounds hSome _
    rw [hopsChars, if_neg hSome]
    exact ⟨'*', _, rfl, rfl⟩

end CypherAssembly

------------------------------------------------------------
-- Values
------------------------------------------------------------

namespace CypherAssembly

/- Characters of values that have no apostrophes around. -/
def isWordChar
    (c : Char) : Bool :=
  isNameChar c || isNumberChar c || c == '$'

namespace Value

/-
  Holds for values that can be told from their literals.
  Parameters are to have plain names, and other texts are to
  have no apostrophe in them.
-/
def isLegible : Value → Bool
  | null => true
  | bool _ => true
  | int _ => true
  | text s =>
      if isParameter s then isPlainName s.toList.tail
      else !s.toList.contains '\x27'
  | _ => false

/- Holds for values with apostrophes around them. -/
def isQuoted : Value → Bool
  | text s => !isParameter s
  | _ => false

/- A parameter is written as a dollar sign and its name. -/
theorem exists_of_parameter
    {s : String}
    (hParameter : isParameter s = true)
    (hLegible : (text s).isLegible = true) :
    ∃ name, s.toList = '$' :: name ∧
      ∀ c ∈ name, isNameChar c = true := by
  simp only [isLegible, hParameter, if_true] at hLegible
  simp only [isParameter, beq_iff_eq] at hParameter
  rcases List.head?_eq_some_iff.mp hParameter with
    ⟨name, hChars⟩
  rw [hChars, List.tail_cons] at hLegible
  rcases isNameChar_of_isPlainName hLegible with
    ⟨_, _, _, hName⟩
  exact ⟨name, hChars, hName⟩

/- Values that are not quoted are written as one word. -/
theorem isWordChar_of_mem_literal
    (v : Value)
    (hLegible : v.isLegible = true)
    (hWord : v.isQuoted = false) :
    ∀ c ∈ v.literal.toList, isWordChar c = true := by
  cases v with
  | null => exact List.all_eq_true.mp rfl
  | bool b =>
      cases b with
      | true => exact List.all_eq_true.mp rfl
      | false => exact List.all_eq_true.mp rfl
  | int n =>
      intro c hMem
      have hNumber :=
        Decimal.isNumberChar_of_mem_ofInt n c hMem
      simp [isWordChar, hNumber]
  | text s =>
      have hParameter : isParameter s = true := by
        simpa [isQuoted] using hWord
      rcases exists_of_parameter hParameter hLegible with
        ⟨name, hChars, hName⟩
      rw [literal, if_pos hParameter, hChars]
      intro c hMem
      rcases List.mem_cons.mp hMem with rfl | hRest
      · decide
      · simp [isWordChar, hName c hRest]
  | float x => cases hLegible
  | list items => cases hLegible
  | map entries => cases hLegible
  | table entries => cases hLegible

/- A quoted text has no apostrophe in it. -/
theorem exists_of_quoted
    (v : Value)
    (hLegible : v.isLegible = true)
    (hQuoted : v.isQuoted = true) :
    ∃ s,
      v = text s ∧
        v.literal.toList = '\x27' :: (s.toList ++ ['\x27']) ∧
          ∀ c ∈ s.toList, (c != '\x27') = true := by
  cases v with
  | text s =>
      have hParameter : isParameter s = false := by
        simpa [isQuoted] using hQuoted
      refine ⟨s, rfl, ?_, ?_⟩
      · rw [literal, if_neg (by simp [hParameter])]
        simp
      · simp only [isLegible, hParameter, Bool.false_eq_true,
          if_false, Bool.not_eq_true',
          List.contains_eq_mem, decide_eq_false_iff_not]
          at hLegible
        intro c hMem
        rw [bne_iff_ne]
        rintro rfl
        exact hLegible hMem
  | _ => cases hQuoted

/- The kind of value that a word with this start is. -/
def kindOfWord
    (first : Char) : ValueKind :=
  if first = 'n' then .null
  else if first = 't' ∨ first = 'f' then .bool
  else if first = '$' then .text
  else .int

/- Words of different kinds begin differently. -/
theorem exists_first_of_word
    (v : Value)
    (hLegible : v.isLegible = true)
    (hWord : v.isQuoted = false) :
    ∃ c cs,
      v.literal.toList = c :: cs ∧ v.kind = kindOfWord c := by
  cases v with
  | null => exact ⟨'n', _, rfl, rfl⟩
  | bool b =>
      cases b with
      | true => exact ⟨'t', _, rfl, rfl⟩
      | false => exact ⟨'f', _, rfl, rfl⟩
  | int n =>
      rcases List.exists_cons_of_ne_nil
          (Decimal.ofInt_ne_empty n) with
        ⟨c, cs, hChars⟩
      have hNumber : isNumberChar c = true := by
        apply Decimal.isNumberChar_of_mem_ofInt n
        simp [hChars]
      have hNe :
          ∀ d, isNumberChar d = false → c ≠ d := by
        rintro d hNot rfl
        rw [hNumber] at hNot
        cases hNot
      refine ⟨c, cs, hChars, ?_⟩
      simp [kindOfWord, kind, hNe 'n' rfl,
        hNe 't' rfl, hNe 'f' rfl,
        hNe '$' rfl]
  | text s =>
      have hParameter : isParameter s = true := by
        simpa [isQuoted] using hWord
      rcases exists_of_parameter hParameter hLegible with
        ⟨name, hChars, _⟩
      refine ⟨'$', name, ?_, rfl⟩
      rw [literal, if_pos hParameter, hChars]
  | _ => cases hLegible

/- Different words are written for different values. -/
theorem literal_injective_of_words
    (v w : Value)
    (hLegible : v.isLegible = true)
    (hLegibleToo : w.isLegible = true)
    (hWord : v.isQuoted = false)
    (hWordToo : w.isQuoted = false)
    (hEq : v.literal = w.literal) :
    v = w := by
  have hKind : v.kind = w.kind := by
    rcases exists_first_of_word v hLegible hWord with
      ⟨c, cs, hChars, hFirst⟩
    rcases exists_first_of_word w hLegibleToo hWordToo with
      ⟨d, ds, hCharsToo, hFirstToo⟩
    rw [hEq, hCharsToo] at hChars
    rw [hFirst, hFirstToo, (List.cons.inj hChars).1]
  cases v with
  | null =>
      cases w with
      | null => rfl
      | _ => cases hKind
  | bool b =>
      cases w with
      | bool c =>
          cases b <;> cases c <;> first
            | rfl
            | simp [literal] at hEq
      | _ => cases hKind
  | int m =>
      cases w with
      | int n => rw [Decimal.ofInt_injective m n hEq]
      | _ => cases hKind
  | text s =>
      cases w with
      | text t =>
          simp only [isQuoted, Bool.not_eq_false']
            at hWord hWordToo
          simp only [literal, hWord, hWordToo, if_true] at hEq
          rw [hEq]
      | _ => cases hKind
  | _ => cases hLegible

/- A word does not begin like a quoted text. -/
theorem word_append_ne
    (v w : Value)
    (rest others : List Char)
    (hLegible : v.isLegible = true)
    (hLegibleToo : w.isLegible = true)
    (hWord : v.isQuoted = false)
    (hQuoted : w.isQuoted = true) :
    v.literal.toList ++ rest ≠ w.literal.toList ++ others := by
  intro hEq
  rcases exists_first_of_word v hLegible hWord with
    ⟨c, cs, hChars, _⟩
  rcases exists_of_quoted w hLegibleToo hQuoted with
    ⟨s, _, hCharsToo, _⟩
  have hFirst : isWordChar c = true := by
    apply isWordChar_of_mem_literal v hLegible hWord
    simp [hChars]
  rw [hChars, hCharsToo] at hEq
  rw [(List.cons.inj hEq).1] at hFirst
  revert hFirst
  decide

theorem isReadable_literal :
    IsReadable (fun v : Value => v.isLegible = true)
      (fun v => v.literal.toList)
      (fun c => !isWordChar c) := by
  intro v w rest others hV hW hRest hOthers hEq
  change v.literal.toList ++ rest =
    w.literal.toList ++ others at hEq
  cases hWord : v.isQuoted with
  | false =>
      cases hWordToo : w.isQuoted with
      | false =>
          rcases eq_of_append_eq isWordChar _ _ rest others
              (isWordChar_of_mem_literal v hV hWord)
              (isWordChar_of_mem_literal w hW hWordToo)
              hRest hOthers hEq with
            ⟨hSame, hBehind⟩
          have hValue :=
            literal_injective_of_words v w hV hW hWord
              hWordToo (String.toList_inj.mp hSame)
          exact ⟨hValue, hBehind⟩
      | true =>
          exact
            absurd hEq
              (word_append_ne v w _ _ hV hW hWord hWordToo)
  | true =>
      rcases exists_of_quoted v hV hWord with
        ⟨s, rfl, hChars, hText⟩
      cases hWordToo : w.isQuoted with
      | false =>
          exact
            absurd hEq.symm
              (word_append_ne w _ _ _ hW hV hWordToo hWord)
      | true =>
          rcases exists_of_quoted w hW hWordToo with
            ⟨t, rfl, hCharsToo, hTextToo⟩
          rw [hChars, hCharsToo] at hEq
          have hTexts :
              s.toList ++ '\x27' :: rest =
                t.toList ++ '\x27' :: others := by
            simpa using hEq
          rcases eq_of_append_eq (· != '\x27') _ _ _ _ hText
              hTextToo (startsIn_cons _ rfl)
              (startsIn_cons _ rfl) hTexts with
            ⟨hSame, hBehind⟩
          rw [String.toList_inj.mp hSame]
          exact ⟨rfl, (List.cons.inj hBehind).2⟩

end Value

end CypherAssembly

------------------------------------------------------------
-- Properties
------------------------------------------------------------

namespace CypherAssembly

/- A property: its key, a colon, a space and its value. -/
def propertyChars
    (entry : String × Value) : List Char :=
  entry.1.toList ++ ':' :: ' ' :: entry.2.literal.toList

/- Properties between braces, unless there are none. -/
def propertiesChars
    (entries : Record Value) : List Char :=
  if entries.isEmpty then []
  else
    ' ' :: '\x7b' ::
      (separated [',', ' '] propertyChars entries ++
        ['\x7d'])

/- Holds for properties that can be told from their text. -/
def isLegibleEntry
    (entry : String × Value) : Prop :=
  isName entry.1 = true ∧ entry.2.isLegible = true

theorem isReadable_property :
    IsReadable isLegibleEntry propertyChars
      (fun c => !isWordChar c && endsName c) :=
  isReadable_name.pair
    ((Value.isReadable_literal.limited
      (fun c => !isWordChar c && endsName c)
      (fun _ hBoth => (Bool.and_eq_true_iff.mp hBoth).1)
      ).prefixed [':', ' '])
    (fun _ _ => startsIn_cons _ rfl)
    (fun _ hBoth => (Bool.and_eq_true_iff.mp hBoth).2)

theorem propertiesChars_of_ne_nil
    (entries : Record Value)
    (hSome : entries ≠ []) :
    propertiesChars entries =
      [' ', '\x7b'] ++
        (separated [',', ' '] propertyChars entries ++
          ['\x7d']) := by
  simp [propertiesChars, hSome]

/- Properties end at a brace and begin with a space. -/
theorem isReadable_properties :
    IsReadable
      (fun entries : Record Value =>
        ∀ entry ∈ entries, isLegibleEntry entry)
      propertiesChars
      (· != ' ') := by
  have hSeparated :=
    isReadable_property.separated ',' [' '] (· == '\x7d')
      rfl (forall_of_beq rfl)
  have hClosed :=
    ((hSeparated.closed '\x7d' rfl).prefixed
      [' ', '\x7b']).limited (· != ' ') (fun _ _ => rfl)
  apply IsReadable.orBlank []
  · apply hClosed.congr
    rintro entries ⟨hSome, _⟩
    exact (propertiesChars_of_ne_nil entries hSome).symm
  · rfl
  · intro entries hSome _
    rw [propertiesChars_of_ne_nil entries hSome]
    exact ⟨' ', _, rfl, rfl⟩

end CypherAssembly
