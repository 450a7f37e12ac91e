import Mathlib.Data.Nat.Init
import CypherAssembly.Proofs.Desk.Asked
import CypherAssembly.Proofs.Desk.Nesting
import CypherAssembly.Proofs.Pattern.Held

/-
  The values of properties in nested queries.

  Key definitions include:
    * `Desk.TakesValue`

  Key theorems include:
    * `Desk.isInside_finalText`
    * `Desk.isInside_of_embeds`
    * `Desk.values_of_nested_query`

  A block does not tell the newlines between two lines of a
  query from those in the middle of a value, and moves what
  is behind either of them.  So a value of several lines is
  not the same in the query around it, and every other value
  is.
-/

------------------------------------------------------------
-- Inside of Queries
------------------------------------------------------------

namespace CypherAssembly

namespace Desk

/- What is in the middle of an answer is in the query. -/
theorem isInside_finalText
    (commands : List Command)
    (name : String)
    (a : Asked)
    {part : String}
    (hMem : a ∈ fresh.asked name commands)
    (hUnended : IsUnended part)
    (hInside : IsInside part (a.answer name).text) :
    IsInside part ((fresh.run commands).finalText name) := by
  have hAnswer :
      (a.answer name).text ∈
        (fresh.answers name commands).map (·.text) := by
    rw [answers_eq_map_asked]
    exact
      List.mem_map_of_mem (List.mem_map_of_mem hMem)
  rw [finalText_run_of_open fresh name commands rfl]
  apply isInside_trimSuffix hUnended
  have hAll := hInside.trans (isInside_join hAnswer)
  exact hAll.trans (isInside_append_left _ _)

/- What is quoted in a query is moved in the one around it. -/
theorem isInside_of_embeds
    (commands : List Command)
    (outer inner text : String)
    (hEmbeds : Embeds commands outer inner)
    (hInside :
      IsInside (quoted text)
        ((fresh.run commands).finalText inner)) :
    IsInside (quoted (Block.widened 2 text))
      ((fresh.run commands).finalText outer) := by
  rcases finalText_of_embeds commands outer inner hEmbeds with
    ⟨front, back, _, _, hOuter⟩
  have hQuoted :
      Block.widened 2 (quoted text) =
        quoted (Block.widened 2 text) := by
    rw [quoted, Block.widened_append, Block.widened_append]
    rfl
  have hBlock :=
    Block.isInside_call (isUnended_quoted text) hInside
  rw [hQuoted] at hBlock
  rw [hOuter]
  apply isInside_trimSuffix (isUnended_quoted _)
  exact hBlock.trans (isInside_around front _ back)

end Desk

end CypherAssembly

------------------------------------------------------------
-- Values in Nested Queries
------------------------------------------------------------

namespace CypherAssembly

namespace Desk

/-
  A builder has taken in patterns, one of them with the text
  for a value.
-/
def TakesValue
    (commands : List Command)
    (name text : String) : Prop :=
  ∃ a ∈ fresh.asked name commands,
    (a.answer name).refusal = none ∧
      ∃ kind given,
        a.request = .add (.ok (.patterns kind given)) ∧
          ∃ c ∈ given, c.Carries text

/- Without faults, the value is quoted in the query. -/
theorem isInside_of_takesValue
    (commands : List Command)
    (name text : String)
    (hTakes : TakesValue commands name text)
    (hClean : ((fresh.run commands).builder name).faults = [])
    (hText : Value.isParameter text = false) :
    IsInside (quoted text)
      ((fresh.run commands).finalText name) := by
  rcases hTakes with
    ⟨a, hMem, hAccepted, kind, given, hRequest, c, hGiven,
      hCarries⟩
  have hFaults : (a.answer name).faults = [] := by
    rw [faults_run, List.flatMap_eq_nil_iff] at hClean
    exact hClean a hMem
  have hAnswer :
      a.answer name =
        (Clause.patterns kind given).contribution := by
    rcases answer_cases commands name a hMem hAccepted with
      ⟨clause, hClause, _, hAnswer⟩ | ⟨hEmbed, _⟩ |
        ⟨inner, _, hEmbed, _⟩
    · rw [hRequest] at hClause
      cases hClause
      exact hAnswer
    · rw [hRequest] at hEmbed
      cases hEmbed
    · rw [hRequest] at hEmbed
      cases hEmbed
  rw [hAnswer] at hAccepted hFaults
  apply isInside_finalText commands name a hMem
    (isUnended_quoted text)
  rw [hAnswer]
  exact
    Clause.isInside_contribution hAccepted hFaults hGiven
      hCarries hText

/-
  A text that is a value in a pattern of a query without
  faults is quoted in that query and in every query that it
  is embedded in.  In a query of a certain depth it is wider
  by two columns for each block around it, and as it was if
  there are no newlines in it.
-/
theorem values_of_nested_query
    (commands : List Command)
    (builders : Nat → String)
    (depth : Nat)
    (text : String)
    (hTakes : TakesValue commands (builders 0) text)
    (hClean :
      ((fresh.run commands).builder (builders 0)).faults =
        [])
    (hText : Value.isParameter text = false)
    (hChain :
      ∀ i < depth,
        Embeds commands (builders (i + 1)) (builders i)) :
    let final := (fresh.run commands).finalText
    IsInside (quoted (Block.widened (2 * depth) text))
        (final (builders depth)) ∧
      ('\n' ∉ text.toList →
        IsInside (quoted text) (final (builders depth))) := by
  intro final
  have hAll :
      IsInside (quoted (Block.widened (2 * depth) text))
        (final (builders depth)) := by
    induction depth with
    | zero =>
        rw [Nat.mul_zero, Block.widened_zero]
        exact
          isInside_of_takesValue commands _ text hTakes
            hClean hText
    | succ depth ih =>
        have hBelow := ih fun i hLess => hChain i (by omega)
        have hMoved :=
          isInside_of_embeds commands _ _ _
            (hChain depth (by omega)) hBelow
        have hColumns : 2 + 2 * depth = 2 * (depth + 1) := by
          omega
        rw [Block.widened_widened, hColumns] at hMoved
        exact hMoved
  refine ⟨hAll, ?_⟩
  intro hLine
  rw [Block.widened_of_no_newline _ _ hLine] at hAll
  exact hAll

/- A node that is signed by a name in two lines. -/
def signedNode : Node :=
  .ofParts "n" []
    [("name", .text "Ada"), ("sign", .text "Ada\nL.")]

/- That node is matched in a query two blocks deep. -/
def signedRun : List Command :=
  [.ask "low"
      (.add (.ok
        (.patterns .matching
          [.pattern (.node signedNode) .nothing .nothing]))),
    .ask "middle" (.add (.ok (.limit (.int 3)))),
    .ask "middle" (.embed "low"),
    .ask "high" (.embed "middle")]

theorem takesValue_signedRun
    (text : String)
    (hHas : signedNode.properties.HasText text) :
    TakesValue signedRun "low" text := by
  refine ⟨_, List.mem_cons_self, rfl, .matching, _, rfl, ?_⟩
  refine ⟨_, List.mem_cons_self, .node signedNode, rfl, ?_⟩
  exact .node signedNode hHas

theorem embeds_signedRun :
    Embeds signedRun "middle" "low" ∧
      Embeds signedRun "high" "middle" := by
  constructor
  · exact
      (embeds_iff _ _ _).mpr
        ⟨signedRun.take 2, signedRun.drop 3, rfl, by decide⟩
  · exact
      (embeds_iff _ _ _).mpr
        ⟨signedRun.take 3, signedRun.drop 4, rfl, by decide⟩

/-
  The signature in the outermost query of that run.  Four
  columns went into it.
-/
theorem values_of_signedRun :
    let builders := ["low", "middle", "high"]
    let final := (fresh.run signedRun).finalText
    TakesValue signedRun "low" "Ada\nL." ∧
      ((fresh.run signedRun).builder "low").faults = [] ∧
      Value.isParameter "Ada\nL." = false ∧
      (∀ i < 2,
        Embeds signedRun (builders.getD (i + 1) "")
          (builders.getD i "")) ∧
      IsInside "'Ada\n    L.'" (final "high") := by
  intro builders final
  have hTakes : TakesValue signedRun "low" "Ada\nL." := by
    apply takesValue_signedRun
    exact .named _ "sign" (by simp)
  have hClean :
      ((fresh.run signedRun).builder "low").faults = [] := by
    rfl
  have hText : Value.isParameter "Ada\nL." = false := by
    decide
  have hChain :
      ∀ i < 2,
        Embeds signedRun (builders.getD (i + 1) "")
          (builders.getD i "") := by
    intro i hLess
    have hCases : i = 0 ∨ i = 1 := by
      omega
    rcases hCases with rfl | rfl
    · exact embeds_signedRun.1
    · exact embeds_signedRun.2
  have hQuoted :
      quoted (Block.widened (2 * 2) "Ada\nL.") =
        "'Ada\n    L.'" := by
    decide +kernel
  refine ⟨hTakes, hClean, hText, hChain, ?_⟩
  rw [← hQuoted]
  exact
    (values_of_nested_query signedRun
      (fun i => builders.getD i "") 2 "Ada\nL." hTakes hClean
      hText hChain).1

/-
  The signature is in the innermost query as it is.  In the
  query around that one it is not.
-/
theorem signature_changed_by_block :
    let final := (fresh.run signedRun).finalText
    TakesValue signedRun "low" "Ada\nL." ∧
      ((fresh.run signedRun).builder "low").faults = [] ∧
      Value.isParameter "Ada\nL." = false ∧
      '\'' ∉ "Ada\nL.".toList ∧
      Embeds signedRun "middle" "low" ∧
      IsInside (quoted "Ada\nL.") (final "low") ∧
      ¬ IsInside (quoted "Ada\nL.") (final "middle") := by
  intro final
  have hTakes : TakesValue signedRun "low" "Ada\nL." := by
    apply takesValue_signedRun
    exact .named _ "sign" (by simp)
  refine ⟨hTakes, ?_, ?_, ?_, embeds_signedRun.1, ?_, ?_⟩
  · rfl
  · decide
  · decide
  · decide +kernel
  · decide +kernel

end Desk

end CypherAssembly
