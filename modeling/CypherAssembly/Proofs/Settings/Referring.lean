import CypherAssembly.Settings.Reference
import CypherAssembly.Settings.Rules

/-
  What the entries of a file depend on.

  Key definitions include:
    * `Reference.names`
    * `Record.outside`
    * `EnvFile.Avoids`

  Key theorems include:
    * `Reference.expand_congr`
    * `EnvFile.outside_entries`
    * `SourceRules.find?_outside`

  A value in a file depends on the values that it refers to
  and on nothing else.  So some names can be hidden, with
  whatever values they have: if no other statement refers to
  them, the other entries of the file stay the same.
-/

------------------------------------------------------------
-- Names Referred To
------------------------------------------------------------

namespace CypherAssembly

namespace Reference

/-
  The names that a text refers to, found in the same steps
  in which they are replaced.
-/
def namesWithin : Nat → List Char → List String
  | 0, _ => []
  | _, [] => []
  | n + 1, '$' :: '\x7b' :: rest =>
      match read? rest with
      | some (r, after) => r.name :: namesWithin n after
      | none => namesWithin n ('\x7b' :: rest)
  | n + 1, _ :: rest => namesWithin n rest

/- The names that a text refers to. -/
def names
    (text : String) : List String :=
  namesWithin text.length text.toList

variable {find? other? : String → Option String}

/- Only the values of these names matter. -/
theorem expandWithin_congr
    (n : Nat)
    (cs : List Char)
    (hSame :
      ∀ name ∈ namesWithin n cs, find? name = other? name) :
    expandWithin find? n cs = expandWithin other? n cs := by
  induction n, cs using namesWithin.induct with
  | case1 cs => rfl
  | case2 n hNot =>
      cases n <;> rfl
  | case3 n rest r after hRead ih =>
      rw [namesWithin, hRead] at hSame
      rcases List.forall_mem_cons.mp hSame with
        ⟨hName, hAfter⟩
      rw [expandWithin, expandWithin, hRead]
      simp only [hName, ih hAfter]
  | case4 n rest hRead ih =>
      rw [namesWithin, hRead] at hSame
      rw [expandWithin, expandWithin, hRead]
      simp only [ih hSame]
  | case5 n c rest hNot ih =>
      rw [namesWithin] at hSame
      · rw [expandWithin, expandWithin, ih hSame]
        · exact hNot
        · exact hNot
      · exact hNot

theorem expand_congr
    (text : String)
    (hSame : ∀ name ∈ names text, find? name = other? name) :
    expand find? text = expand other? text :=
  congrArg String.ofList
    (expandWithin_congr text.length text.toList hSame)

end Reference

end CypherAssembly

------------------------------------------------------------
-- Hidden Names
------------------------------------------------------------

namespace CypherAssembly

namespace Record

variable {A : Type}
variable {hidden : String → Bool}

/- The entries with names that are not hidden. -/
def outside
    (hidden : String → Bool)
    (r : Record A) : Record A :=
  List.filter (fun entry => !hidden entry.1) r

theorem get?_outside
    {name : String}
    (hSeen : hidden name = false)
    (r : Record A) :
    (r.outside hidden).get? name = r.get? name := by
  induction r with
  | nil => rfl
  | cons entry rest ih =>
      rcases entry with ⟨other, value⟩
      by_cases hSame : other = name
      · subst hSame
        simp [outside, hSeen, get?]
      · unfold outside at ih ⊢
        cases hOther : hidden other with
        | true => simp [hOther, get?, hSame, ih]
        | false => simp [hOther, get?, hSame, ih]

/- A hidden name that is put in is not seen. -/
theorem outside_put_of_hidden
    {name : String}
    (hHidden : hidden name = true)
    (value : A)
    (r : Record A) :
    (r.put name value).outside hidden =
      r.outside hidden := by
  induction r with
  | nil => simp [put, outside, hHidden]
  | cons entry rest ih =>
      rcases entry with ⟨other, old⟩
      unfold outside at ih ⊢
      by_cases hSame : other = name
      · subst hSame
        simp [put, hHidden]
      · rw [put, if_neg hSame, List.filter_cons,
          List.filter_cons, ih]

/- Any other name is put in among those that are seen. -/
theorem outside_put
    {name : String}
    (hSeen : hidden name = false)
    (value : A)
    (r : Record A) :
    (r.put name value).outside hidden =
      (r.outside hidden).put name value := by
  induction r with
  | nil => simp [put, outside, hSeen]
  | cons entry rest ih =>
      rcases entry with ⟨other, old⟩
      unfold outside at ih ⊢
      by_cases hSame : other = name
      · subst hSame
        simp [put, hSeen]
      · rw [put, if_neg hSame, List.filter_cons, ih]
        cases hOther : hidden other with
        | true => simp [hOther]
        | false => simp [hOther, put, hSame]

end Record

end CypherAssembly

------------------------------------------------------------
-- Hidden Entries
------------------------------------------------------------

namespace CypherAssembly

namespace EnvFile

variable {hidden : String → Bool}

/- The statements of names that are not hidden. -/
def outside
    (hidden : String → Bool)
    (given : List Statement) : List Statement :=
  given.filter fun s => !hidden s.name

/- No statement that is seen refers to a hidden name. -/
def Avoids
    (hidden : String → Bool)
    (given : List Statement) : Prop :=
  ∀ s ∈ given,
    hidden s.name = false →
      ∀ text ∈ s.value,
        ∀ name ∈ Reference.names text, hidden name = false

instance
    (hidden : String → Bool)
    (given : List Statement) :
    Decidable (Avoids hidden given) := by
  unfold Avoids
  infer_instance

/- Statements of hidden names may refer to what they want. -/
theorem Avoids.of_outside_eq
    {first second : List Statement}
    (hAvoids : Avoids hidden first)
    (hSame : outside hidden second = outside hidden first) :
    Avoids hidden second := by
  intro s hMem hSeen
  have hOutside : s ∈ outside hidden second := by
    rw [outside, List.mem_filter]
    exact ⟨hMem, by rw [hSeen]; rfl⟩
  rw [hSame] at hOutside
  exact hAvoids s (List.mem_filter.mp hOutside).1 hSeen

/- The meaning of a name that is seen is seen as well. -/
theorem meaning?_outside
    {name : String}
    (hSeen : hidden name = false)
    (above : Record (Option String))
    (environment : Record String) :
    meaning? (above.outside hidden)
        (environment.outside hidden) name =
      meaning? above environment name := by
  rw [meaning?, meaning?, Record.get?_outside hSeen,
    Record.get?_outside hSeen]

/-
  What is seen of the entries of a file is made of what is
  seen of its statements and of the environment.
-/
theorem outside_foldl
    (environment : Record String)
    (given : List Statement)
    (above : Record (Option String))
    (hAvoids : Avoids hidden given) :
    (given.foldl (addStatement environment) above).outside
        hidden =
      (outside hidden given).foldl
        (addStatement (environment.outside hidden))
        (above.outside hidden) := by
  induction given generalizing above with
  | nil => rfl
  | cons s rest ih =>
      rcases List.forall_mem_cons.mp hAvoids with
        ⟨hFirst, hRest⟩
      rw [List.foldl_cons, ih _ hRest]
      simp only [outside, List.filter_cons]
      cases hSeen : hidden s.name with
      | true =>
          rw [addStatement, Record.outside_put_of_hidden hSeen]
          rfl
      | false =>
          have hValue :
              s.value.map
                  (Reference.expand
                    (meaning? above environment)) =
                s.value.map
                  (Reference.expand
                    (meaning? (above.outside hidden)
                      (environment.outside hidden))) := by
            cases hText : s.value with
            | none => rfl
            | some text =>
                rw [Option.map_some, Option.map_some]
                apply congrArg
                apply Reference.expand_congr
                intro name hName
                exact
                  (meaning?_outside
                    (hFirst hSeen text hText name hName)
                    above environment).symm
          rw [addStatement, hValue, Record.outside_put hSeen]
          rfl

theorem outside_entries
    (environment : Record String)
    (text : String)
    (hAvoids : Avoids hidden (statements text)) :
    (entries environment text).outside hidden =
      (outside hidden (statements text)).foldl
        (addStatement (environment.outside hidden)) [] :=
  outside_foldl environment (statements text) [] hAvoids

end EnvFile

namespace SourceRules

/- Entries of other names do not matter to a setting. -/
theorem find?_outside
    {hidden : String → Bool}
    (r : SourceRules)
    (name : String)
    (hOther :
      ∀ other,
        hidden other = true →
          r.key other ≠ r.key (r.start ++ name))
    (entries : Entries) :
    r.find? name (Record.outside hidden entries) =
      r.find? name entries := by
  have hSeen :
      ∀ entry : String × Option String,
        (r.key entry.1 == r.key (r.start ++ name)) = true →
          (!hidden entry.1) = true := by
    intro entry hKey
    cases hHidden : hidden entry.1 with
    | false => rfl
    | true =>
        exact absurd (eq_of_beq hKey) (hOther _ hHidden)
  have hLast :
      ((Record.outside hidden entries).filter
            r.keeps).reverse.find?
          (fun entry =>
            r.key entry.1 == r.key (r.start ++ name)) =
        (entries.filter r.keeps).reverse.find? fun entry =>
          r.key entry.1 == r.key (r.start ++ name) := by
    simp only [Record.outside, ← List.filter_reverse,
      List.find?_filter]
    congr 1
    funext entry
    cases hKey : r.key entry.1 == r.key (r.start ++ name) with
    | false => simp
    | true => simp [hSeen entry hKey]
  simp only [find?, hLast]

end SourceRules

end CypherAssembly
