import Mathlib.Data.Nat.Init
import CypherAssembly.Proofs.Desk.Answers
import CypherAssembly.Proofs.Desk.History
import CypherAssembly.Proofs.Text.Lines

/-
  Queries inside of queries inside of queries.

  Key theorems include:
    * `Desk.finalText_of_embeds`
    * `Desk.lines_of_nested_query`

  The text around an embedded query is made of whole lines,
  since builders collect nothing else.  So the lines of the
  embedded query are lines of the query around it, and they
  stay together when that one is embedded in its turn.
-/

------------------------------------------------------------
-- The Text Around a Block
------------------------------------------------------------

namespace CypherAssembly

namespace Desk

/-
  An embedded query is a block among whole lines of the
  query around it.
-/
theorem finalText_of_embeds
    (commands : List Command)
    (outer inner : String)
    (hEmbeds : Embeds commands outer inner) :
    ∃ front back,
      IsEnded front ∧
        IsEnded back ∧
          (fresh.run commands).finalText outer =
            trimSuffix "\n"
              (front ++
                Block.call
                  ((fresh.run commands).finalText inner) ++
                back) := by
  rcases (embeds_iff commands outer inner).mp hEmbeds with
    ⟨first, second, rfl, hCan⟩
  let d := fresh.run first
  let c : Command := .ask outer (.embed inner)
  rcases (canEmbed_iff d outer inner).mp hCan with
    ⟨hOpen, hNe⟩
  have hBlock :
      (d.ask outer (.embed inner)).2.text =
        Block.call (d.finalText inner) := by
    rw [ask_embed_of_open d outer inner hOpen hNe]
    rfl
  have hInner :
      (fresh.run (first ++ c :: second)).finalText inner =
        d.finalText inner := by
    rw [run_append, run_cons, finalText,
      query_run_after_embed d outer inner second hCan]
    rfl
  have hOuter :=
    finalText_run_of_open fresh outer
      (first ++ c :: second) rfl
  rw [answers_append, answers_cons_ask, List.map_append,
    List.map_cons, String.join_append, String.join_cons,
    hBlock] at hOuter
  refine
    ⟨_, _, isEnded_join_answers fresh outer first,
      isEnded_join_answers (d.after c) outer second, ?_⟩
  rw [hOuter, hInner, String.append_assoc]
  exact congrArg (trimSuffix "\n") String.empty_append

end Desk

end CypherAssembly

------------------------------------------------------------
-- Nested Queries
------------------------------------------------------------

namespace CypherAssembly

namespace Desk

/-
  The lines of a query that is embedded in a query that is
  embedded in a query, and so on, are consecutive lines of
  the last one, moved by two columns for each block around
  them, and with the lines of the innermost block around.
-/
theorem lines_of_nested_query
    (commands : List Command)
    (builders : Nat → String)
    (depth : Nat)
    (hDepth : 1 ≤ depth)
    (hChain :
      ∀ i < depth,
        Embeds commands (builders (i + 1)) (builders i)) :
    let final := (fresh.run commands).finalText
    ∃ before after,
      linesOf (final (builders depth)) =
        before ++
          Block.nestedLines depth (final (builders 0)) ++
            after := by
  intro final
  induction depth, hDepth using Nat.le_induction with
  | base =>
      have hEmbeds := hChain 0 (by omega)
      rcases finalText_of_embeds commands _ _ hEmbeds with
        ⟨front, back, hFront, hBack, hText⟩
      have hLines :=
        Block.exists_linesOf_around front back
          (final (builders 0)) hFront hBack
      rw [← hText] at hLines
      exact hLines
  | succ depth hDepth ih =>
      rcases ih (fun i hLess => hChain i (by omega)) with
        ⟨before, after, hInner⟩
      -- the block around moves all of them once more
      rcases Block.exists_linesAt_one depth _ _ before after
          hDepth hInner with
        ⟨before', after', hMoved⟩
      have hEmbeds := hChain depth (by omega)
      rcases finalText_of_embeds commands _ _ hEmbeds with
        ⟨front, back, hFront, hBack, hText⟩
      rcases Block.exists_linesOf_around front back
          (final (builders depth)) hFront hBack with
        ⟨first, last, hLines⟩
      rw [← hText] at hLines
      refine
        ⟨first ++ ["CALL \x7b"] ++ before',
          after' ++ ["\x7d"] ++ last, ?_⟩
      rw [hLines]
      simp only [Block.nestedLines, hMoved]
      simp [padded]

/-
  A query with a line feed at its end inside of a query that
  is inside of a query.
-/
def nestedRun : List Command :=
  [.ask "low"
      (.add (.ok (.projections .returned
        [.fixed (.text "n,\n m\n")]))),
    .ask "middle" (.add (.ok (.limit (.int 3)))),
    .ask "middle" (.embed "low"),
    .ask "high" (.embed "middle"),
    .ask "high" (.add (.ok (.union false)))]

/- The lines of the innermost query in the outermost one. -/
theorem lines_of_nestedRun :
    let builders := ["low", "middle", "high"]
    let final := (fresh.run nestedRun).finalText
    (∀ i < 2,
        Embeds nestedRun (builders.getD (i + 1) "")
          (builders.getD i "")) ∧
      ∃ before after,
        linesOf (final "high") =
          before ++
            ["  CALL \x7b", "    RETURN n,", "     m", "  ",
              "  \x7d"] ++ after := by
  intro builders final
  have hLow : Embeds nestedRun "middle" "low" :=
    (embeds_iff _ _ _).mpr
      ⟨nestedRun.take 2, nestedRun.drop 3, rfl, by decide⟩
  have hMiddle : Embeds nestedRun "high" "middle" :=
    (embeds_iff _ _ _).mpr
      ⟨nestedRun.take 3, nestedRun.drop 4, rfl, by decide⟩
  have hChain :
      ∀ i < 2,
        Embeds nestedRun (builders.getD (i + 1) "")
          (builders.getD i "") := by
    intro i hLess
    have hCases : i = 0 ∨ i = 1 := by
      omega
    rcases hCases with rfl | rfl
    · exact hLow
    · exact hMiddle
  rcases lines_of_nested_query nestedRun
      (fun i => builders.getD i "") 2 (by decide) hChain with
    ⟨before, after, hLines⟩
  have hBlock :
      Block.nestedLines 2 (final "low") =
        ["  CALL \x7b", "    RETURN n,", "     m", "  ",
          "  \x7d"] := by
    decide
  refine ⟨hChain, before, after, ?_⟩
  rw [← hBlock]
  exact hLines

end Desk

end CypherAssembly
