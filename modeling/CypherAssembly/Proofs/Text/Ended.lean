import CypherAssembly.Text.Suffix

/-
  Texts that are made of whole lines.

  Key definitions include:
    * `IsEnded`
    * `IsUnended`

  Key theorems include:
    * `isEnded_append`
    * `isEnded_join`
    * `trimSuffix_of_isEnded`
    * `trimSuffix_eq_self_iff`
    * `trimSuffix_append_left`
    * `trimSuffix_join`
    * `isUnended_intercalate`

  A text is ended when every line in it is closed by a
  newline.  Ended texts can be put one behind the other, and
  only the last of all newlines is trimmed off the result.
  Then the last line is open again, if there is anything in
  it.
-/

------------------------------------------------------------
-- Ended Texts
------------------------------------------------------------

namespace CypherAssembly

/- No line is left open at the end of the text. -/
def IsEnded
    (text : String) : Prop :=
  text = "" ∨ ∃ body, text = body ++ "\n"

/- There is no line in the empty text. -/
theorem isEnded_empty :
    IsEnded "" :=
  Or.inl rfl

/- A newline closes the last line. -/
theorem isEnded_append_newline
    (body : String) :
    IsEnded (body ++ "\n") :=
  Or.inr ⟨body, rfl⟩

/- Ended texts one behind the other are an ended text. -/
theorem isEnded_append
    {first second : String}
    (hFirst : IsEnded first)
    (hSecond : IsEnded second) :
    IsEnded (first ++ second) := by
  rcases hSecond with rfl | ⟨body, rfl⟩
  · simpa using hFirst
  · rw [← String.append_assoc]
    exact isEnded_append_newline _

/- So are any number of ended texts. -/
theorem isEnded_join
    (texts : List String)
    (hEach : ∀ text ∈ texts, IsEnded text) :
    IsEnded (String.join texts) := by
  induction texts with
  | nil => exact isEnded_empty
  | cons text rest ih =>
      rw [String.join_cons]
      exact
        isEnded_append (hEach text List.mem_cons_self)
          (ih fun other hOther =>
            hEach other (List.mem_cons_of_mem _ hOther))

/- Texts can be joined in groups first. -/
theorem join_flatMap
    {A : Type}
    (texts : A → List String)
    (given : List A) :
    String.join (given.flatMap texts) =
      String.join
        (given.map fun a => String.join (texts a)) := by
  induction given with
  | nil => rfl
  | cons a rest ih =>
      rw [List.flatMap_cons, String.join_append, ih,
        List.map_cons, String.join_cons]

/- Joined texts are empty exactly when all of them are. -/
theorem join_eq_empty_iff
    (texts : List String) :
    String.join texts = "" ↔ ∀ text ∈ texts, text = "" := by
  induction texts with
  | nil => simp
  | cons text rest ih => simp [ih]

end CypherAssembly

------------------------------------------------------------
-- Trimming
------------------------------------------------------------

namespace CypherAssembly

/- Nothing is trimmed off the empty text. -/
theorem trimSuffix_empty
    (suffix : String) :
    trimSuffix suffix "" = "" := by
  simp [trimSuffix, dropSuffix]

/- What is trimmed off an ended text is its last newline. -/
theorem trimSuffix_of_isEnded
    {text : String}
    (hEnded : IsEnded text)
    (hSome : text ≠ "") :
    trimSuffix "\n" text ++ "\n" = text := by
  rcases hEnded with hEmpty | ⟨body, rfl⟩
  · exact absurd hEmpty hSome
  · rw [trimSuffix_append]

/- A text that ends with another one starts with the rest. -/
theorem exists_append_of_suffix
    {suffix text : String}
    (hSuffix : suffix.toList <:+ text.toList) :
    ∃ front, text = front ++ suffix := by
  rcases hSuffix with ⟨front, hText⟩
  refine ⟨String.ofList front, ?_⟩
  rw [← String.toList_inj, String.toList_append,
    String.toList_ofList, hText]

/- At most the ending is trimmed off. -/
theorem trimSuffix_eq_or
    (suffix text : String) :
    trimSuffix suffix text = text ∨
      trimSuffix suffix text ++ suffix = text := by
  by_cases hSuffix : suffix.toList <:+ text.toList
  · right
    rcases exists_append_of_suffix hSuffix with ⟨front, rfl⟩
    rw [trimSuffix_append]
  · left
    exact trimSuffix_of_not_suffix hSuffix

/- A text is trimmed if and only if it has the ending. -/
theorem trimSuffix_eq_self_iff
    {suffix : String}
    (text : String)
    (hSome : suffix ≠ "") :
    trimSuffix suffix text = text ↔
      ¬ suffix.toList <:+ text.toList := by
  constructor
  · intro hSame hSuffix
    rcases exists_append_of_suffix hSuffix with ⟨front, rfl⟩
    rw [trimSuffix_append] at hSame
    exact hSome (String.append_eq_left_iff.mp hSame.symm)
  · exact trimSuffix_of_not_suffix

/-
  What stands in front does not matter for trimming, unless
  the ending begins in it.
-/
theorem trimSuffix_append_left
    (suffix front text : String)
    (hInside :
      suffix.toList <:+ front.toList ++ text.toList →
        suffix.toList <:+ text.toList) :
    trimSuffix suffix (front ++ text) =
      front ++ trimSuffix suffix text := by
  by_cases hSuffix : suffix.toList <:+ text.toList
  · rcases exists_append_of_suffix hSuffix with ⟨rest, rfl⟩
    rw [← String.append_assoc, trimSuffix_append,
      trimSuffix_append]
  · have hWhole :
        ¬ suffix.toList <:+ (front ++ text).toList := by
      rw [String.toList_append]
      exact fun h => hSuffix (hInside h)
    rw [trimSuffix_of_not_suffix hWhole,
      trimSuffix_of_not_suffix hSuffix]

end CypherAssembly

------------------------------------------------------------
-- Separators
------------------------------------------------------------

namespace CypherAssembly

/- A separator behind every text is one more than between. -/
theorem join_separated
    (separator : String)
    (texts : List String)
    (hSome : texts ≠ []) :
    String.join (texts.map (· ++ separator)) =
      separator.intercalate texts ++ separator := by
  induction texts with
  | nil => exact absurd rfl hSome
  | cons text rest ih =>
      cases rest with
      | nil => simp
      | cons next rest =>
          have hRest := ih (List.cons_ne_nil next rest)
          rw [List.map_cons, String.join_cons, hRest,
            String.intercalate_cons_cons]
          simp only [String.append_assoc]

/- The one that is too many can be trimmed off. -/
theorem trimSuffix_join
    (separator : String)
    (texts : List String) :
    trimSuffix separator
        (String.join (texts.map (· ++ separator))) =
      separator.intercalate texts := by
  by_cases hNone : texts = []
  · subst hNone
    exact trimSuffix_empty separator
  · rw [join_separated separator texts hNone,
      trimSuffix_append]

end CypherAssembly

------------------------------------------------------------
-- Unended Texts
------------------------------------------------------------

namespace CypherAssembly

/- There is something in the line at the end of the text. -/
def IsUnended
    (text : String) : Prop :=
  ∃ c, text.toList.getLast? = some c ∧ c ≠ '\n'

/- A text in a single line is unended, if it is not empty. -/
theorem isUnended_of_no_newline
    (text : String)
    (hSome : text ≠ "")
    (hLine : '\n' ∉ text.toList) :
    IsUnended text := by
  have hList : text.toList ≠ [] := by
    simpa using hSome
  refine
    ⟨text.toList.getLast hList,
      List.getLast?_eq_some_getLast hList, ?_⟩
  intro hNewline
  apply hLine
  rw [← hNewline]
  exact List.getLast_mem hList

/- What stands in front of an unended text does not matter. -/
theorem isUnended_append
    (first : String)
    {second : String}
    (hSecond : IsUnended second) :
    IsUnended (first ++ second) := by
  rcases hSecond with ⟨c, hLast, hNe⟩
  exact ⟨c, by simp [List.getLast?_append, hLast], hNe⟩

/- Newlines between unended texts leave the last one open. -/
theorem isUnended_intercalate
    (texts : List String)
    (hSome : texts ≠ [])
    (hEach : ∀ text ∈ texts, IsUnended text) :
    IsUnended ("\n".intercalate texts) := by
  induction texts with
  | nil => exact absurd rfl hSome
  | cons text rest ih =>
      cases rest with
      | nil =>
          rw [String.intercalate_singleton]
          exact hEach text List.mem_cons_self
      | cons next rest =>
          rw [String.intercalate_cons_cons]
          apply isUnended_append
          exact
            ih (List.cons_ne_nil next rest) fun other hOther =>
              hEach other (List.mem_cons_of_mem _ hOther)

/- No newline is at the end of an unended text. -/
theorem not_suffix_of_isUnended
    {text : String}
    (hUnended : IsUnended text) :
    ¬ "\n".toList <:+ text.toList := by
  rintro ⟨front, hText⟩
  rcases hUnended with ⟨c, hLast, hNe⟩
  rw [← hText, show "\n".toList = ['\n'] from rfl,
    List.getLast?_concat] at hLast
  exact hNe (Option.some.inj hLast).symm

end CypherAssembly
