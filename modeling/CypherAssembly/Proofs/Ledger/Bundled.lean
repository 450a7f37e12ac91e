import Mathlib.Data.List.Basic
import CypherAssembly.Proofs.Ledger.Snapshot
import CypherAssembly.Proofs.Text.Reading

/-
  Messages of bundles, read back.

  Key definitions include:
    * `Fault.counted`

  Key theorems include:
    * `Fault.counted_injective`
    * `Fault.eq_of_joined_eq`
    * `Fault.joined_of_bundle_eq`
    * `Fault.message_accounts_for_faults`

  The message of a bundle ends with a count.  Nothing that
  looks like a count elsewhere can be taken for it, since
  only digits stand behind the last bracket that opens.  In
  front of the count, the messages of the faults are told
  apart by their separators, if they have none themselves.
  The count is needed for that: no message at all and one
  empty message are joined to the same text.
-/

------------------------------------------------------------
-- Counts
------------------------------------------------------------

namespace CypherAssembly

namespace Fault

/- A text with a number of errors behind it. -/
def counted
    (text : String)
    (n : Nat) : String :=
  text ++ " -- total errors (" ++ Decimal.ofNat n ++ ")"

/-
  Read from its end, the digits of a counted text stop at
  the bracket in front of them, whatever the text is.
-/
theorem reverse_counted
    (text : String)
    (n : Nat) :
    (counted text n).toList.reverse =
      ')' :: ((Decimal.ofNat n).toList.reverse ++
        '(' :: (text ++ " -- total errors ").toList.reverse) := by
  have hFront :
      text ++ " -- total errors (" =
        text ++ " -- total errors " ++ "(" := by
    rw [String.append_assoc]
    rfl
  rw [counted, hFront]
  simp

/- So the text and the number are known from it. -/
theorem counted_injective
    {first second : String}
    {m n : Nat}
    (hEq : counted first m = counted second n) :
    first = second ∧ m = n := by
  have hDigits :
      ∀ n : Nat, ∀ c ∈ (Decimal.ofNat n).toList.reverse,
        c.isDigit = true := by
    intro n c hMem
    exact
      Decimal.isDigit_of_mem_ofNat n c
        (List.mem_reverse.mp hMem)
  have hBracket :
      ∀ cs, StartsIn (fun c => !c.isDigit) ('(' :: cs) :=
    fun cs => startsIn_cons cs rfl
  have hReverse :=
    congrArg (fun text => text.toList.reverse) hEq
  simp only [reverse_counted, List.cons.injEq, true_and]
    at hReverse
  rcases eq_of_append_eq Char.isDigit _ _ _ _
      (hDigits m) (hDigits n) (hBracket _) (hBracket _)
      hReverse with
    ⟨hCount, hText⟩
  have hFront :
      first ++ " -- total errors " =
        second ++ " -- total errors " := by
    rw [← String.toList_inj]
    exact List.reverse_injective (List.cons.inj hText).2
  constructor
  · exact (String.append_left_inj _).mp hFront
  · apply Decimal.ofNat_injective
    rw [← String.toList_inj]
    exact List.reverse_injective hCount

end Fault

end CypherAssembly

------------------------------------------------------------
-- Joined Messages
------------------------------------------------------------

namespace CypherAssembly

namespace Fault

/- As many messages, joined to the same text, are the same. -/
theorem eq_of_joined_eq
    {first second : List String}
    (hLength : first.length = second.length)
    (hFirst : ∀ message ∈ first, ';' ∉ message.toList)
    (hSecond : ∀ message ∈ second, ';' ∉ message.toList)
    (hEq :
      ";".intercalate first = ";".intercalate second) :
    first = second := by
  by_cases hNone : first = []
  · subst hNone
    exact (List.length_eq_zero_iff.mp hLength.symm).symm
  have hParted :
      ∀ messages : List String,
        messages ≠ [] →
          (∀ message ∈ messages, ';' ∉ message.toList) →
            (";".intercalate messages).toList.splitOn ';' =
              messages.map String.toList := by
    intro messages hSome hClean
    rw [String.toList_intercalate]
    apply List.splitOn_intercalate
    · simpa using hClean
    · simpa using hSome
  have hSome : second ≠ [] := by
    rintro rfl
    exact hNone (List.length_eq_zero_iff.mp hLength)
  have hChars :
      first.map String.toList = second.map String.toList := by
    rw [← hParted first hNone hFirst, hEq,
      hParted second hSome hSecond]
  exact
    List.map_injective_iff.mpr
      (fun _ _ => String.toList_inj.mp) hChars

/- A bundle counts the messages that are joined in it. -/
theorem bundle_eq_counted
    (messages : List String) :
    bundle messages =
      "errors found: " ++
        counted (";".intercalate messages)
          messages.length := by
  change
    "errors found: " ++ ";".intercalate messages ++
        " -- total errors (" ++
        Decimal.ofNat messages.length ++ ")" =
      _
  simp only [counted, String.append_assoc]

/- It is known from a bundle what is joined and counted. -/
theorem joined_of_bundle_eq
    {first second : List String}
    (hEq : bundle first = bundle second) :
    ";".intercalate first = ";".intercalate second ∧
      first.length = second.length := by
  rw [bundle_eq_counted, bundle_eq_counted,
    String.append_right_inj] at hEq
  exact counted_injective hEq

/-
  The message of a bundle is made of the messages of all its
  faults, in order, and of their number, whatever faults
  they are.  So is the message of what a query hands out.
  Bundles with the same message have as many faults, and if
  none of these has a separator in its message, they have
  the same messages.
-/
theorem message_accounts_for_faults
    (faults others : List Fault) :
    let text :=
      "errors found: " ++
        ";".intercalate (faults.map message) ++
        " -- total errors (" ++
        Decimal.ofNat faults.length ++ ")"
    (composite faults).message = text ∧
      (∀ f, ofMany? faults = some f → f.message = text) ∧
      ((composite faults).message =
          (composite others).message →
        faults.length = others.length ∧
          ((∀ f ∈ faults ++ others,
              ';' ∉ f.message.toList) →
            faults.map message = others.map message)) := by
  intro text
  refine ⟨message_composite faults, ?_, ?_⟩
  · intro f hSome
    rw [eq_composite_of_ofMany? hSome]
    exact message_composite faults
  · intro hSame
    rw [message_eq_bundle, message_eq_bundle] at hSame
    rcases joined_of_bundle_eq hSame with ⟨hJoined, hLength⟩
    refine ⟨by simpa using hLength, ?_⟩
    intro hClean
    apply eq_of_joined_eq hLength _ _ hJoined
    · intro m hMem
      rcases List.mem_map.mp hMem with ⟨f, hIn, rfl⟩
      exact hClean f (List.mem_append_left _ hIn)
    · intro m hMem
      rcases List.mem_map.mp hMem with ⟨f, hIn, rfl⟩
      exact hClean f (List.mem_append_right _ hIn)

/-
  One message can look like two bundles with their counts,
  and a bundle can be among the faults of another one.  The
  messages show that these are bundles of different faults.
-/
theorem bundles_of_imitations_differ :
    let fail := fun m => Fault.outside (.failure m)
    let imitation :=
      fail "e1 -- total errors (1)errors found: "
    let first := [imitation, fail ""]
    let second := [imitation, .composite [fail ""]]
    (∀ f ∈ first ++ second, ';' ∉ f.message.toList) ∧
      (composite first).message =
        "errors found: e1 -- total errors (1)" ++
          "errors found: ; -- total errors (2)" ∧
      (composite first).message ≠
        (composite second).message ∧
      (composite []).message ≠
        (composite [fail ""]).message := by
  intro fail imitation first second
  have hFail : ∀ m, (fail m).message = m := fun _ => rfl
  have hBundle :
      (composite [fail ""]).message =
        "errors found:  -- total errors (1)" := by
    rw [message_composite, List.map_singleton, hFail]
    decide +kernel
  have hClean :
      ∀ f ∈ first ++ second, ';' ∉ f.message.toList := by
    have hImitation : ';' ∉ imitation.message.toList := by
      rw [hFail]
      decide
    simp only [first, second, List.cons_append,
      List.nil_append, List.forall_mem_cons]
    refine ⟨hImitation, ?_, hImitation, ?_, ?_⟩
    · rw [hFail]
      decide
    · rw [hBundle]
      decide
    · simp
  rcases message_accounts_for_faults first second with
    ⟨hText, _, hApart⟩
  rcases message_accounts_for_faults [] [fail ""] with
    ⟨_, _, hCount⟩
  refine ⟨hClean, ?_, ?_, ?_⟩
  · exact hText.trans (by decide +kernel)
  · intro hSame
    have hMessages := (hApart hSame).2 hClean
    simp only [first, second, List.map_cons, List.map_nil,
      hFail, hBundle] at hMessages
    revert hMessages
    decide
  · intro hSame
    cases (hCount hSame).1

end Fault

end CypherAssembly
