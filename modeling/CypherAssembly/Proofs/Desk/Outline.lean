import Mathlib.Data.List.Basic
import CypherAssembly.Proofs.Clause.Outline
import CypherAssembly.Proofs.Desk.Asked
import CypherAssembly.Proofs.Desk.Breaking

/-
  The clauses of a query, read off its text.

  Key definitions include:
    * `Desk.passages`
    * `Desk.embedded`
    * `Desk.IsLegible`
    * `clausesIn`

  Key theorems include:
    * `Desk.clauses_eq_passages`
    * `Desk.finalText_eq_passages`
    * `Desk.clauses_read_off_text`

  The text of a query is made of passages, one for each of
  its clauses.  A request that is broken off has none, or the
  first of the two passages of a page.  If no operand has
  more than one line, the first lines of all passages stand
  out: every other line is indented or closes a block.  For
  this, the last line of an embedded query must not be empty,
  so its operands have to be single lines as well.  What it
  embeds itself does not matter any more.
-/

------------------------------------------------------------
-- Passages of Requests
------------------------------------------------------------

namespace CypherAssembly

namespace Request

/- What a request to a builder puts into the text. -/
def passages
    (name : String)
    (final : String → String) : Request → List Passage
  | add (.ok c) => c.passages
  | add (.error _) => []
  | embed inner =>
      if inner = name then [] else [.block (final inner)]

/- What is left in the text by a request that is broken off. -/
def remains : Request → List Passage
  | add (.ok c) =>
      if c.isHalved then [.clause .skip "0"] else []
  | _ => []

/- The texts and numbers that are written for a request. -/
def texts : Request → List String
  | add (.ok c) => c.texts
  | _ => []

/- That is the line that skips no rows. -/
theorem eq_of_mem_remains
    (r : Request)
    {p : Passage}
    (hMem : p ∈ r.remains) :
    p = .clause .skip "0" := by
  rcases r with (_ | c) | _
  · cases hMem
  · simp only [remains] at hMem
    split at hMem
    · exact List.mem_singleton.mp hMem
    · cases hMem
  · cases hMem

end Request

namespace Asked

/-
  What is put into the text: all that was asked for if the
  request is accepted, and nothing if it comes too late.
-/
def passages
    (name : String)
    (final : String → String)
    (a : Asked) : List Passage :=
  if (a.answer name).refusal.isNone then
    a.request.passages name final
  else if (a.before.builder name).isFinished then []
  else a.request.remains

/- Holds if every text that is written is a single line. -/
def IsLegible
    (name : String)
    (a : Asked) : Prop :=
  (a.answer name).refusal = none →
    ∀ text ∈ a.request.texts, '\n' ∉ text.toList

instance
    (name : String)
    (a : Asked) :
    Decidable (a.IsLegible name) := by
  unfold IsLegible
  infer_instance

end Asked

namespace Desk

/- What is broken off leaves what remains of it. -/
theorem remains_of_request
    (r : Request) :
    r.leftText =
        String.join (r.remains.map Passage.text) ∧
      r.leftClauses = r.remains.map Passage.keyword := by
  rcases r with (_ | c) | _
  · exact ⟨rfl, rfl⟩
  · simp only [Request.leftText, Request.leftClauses,
      Request.remains, Clause.leftText, Clause.leftClauses]
    cases c.isHalved with
    | true => exact ⟨by decide, rfl⟩
    | false => exact ⟨rfl, rfl⟩
  · exact ⟨rfl, rfl⟩

/- A builder answers with the passages of a request. -/
theorem answer_passages
    (commands : List Command)
    (name : String)
    (a : Asked)
    (hMem : a ∈ fresh.asked name commands) :
    let passages :=
      a.passages name (fresh.run commands).finalText
    (a.answer name).text =
        String.join (passages.map Passage.text) ∧
      (a.answer name).clauses =
        passages.map Passage.keyword := by
  intro passages
  cases hRefusal : (a.answer name).refusal with
  | none =>
      have hPassages :
          passages =
            a.request.passages name
              (fresh.run commands).finalText :=
        if_pos (by rw [hRefusal]; rfl)
      rw [hPassages]
      rcases answer_cases commands name a hMem hRefusal with
        ⟨c, hRequest, hClause, hAnswer⟩ |
          ⟨hRequest, hAnswer⟩ |
            ⟨inner, hNe, hRequest, _, hAnswer⟩
      · rw [hRequest, hAnswer]
        exact c.contribution_passages hClause
      · rw [hRequest, hAnswer, Request.passages, if_pos rfl]
        exact ⟨rfl, rfl⟩
      · rw [hRequest, hAnswer, Request.passages, if_neg hNe]
        simp [Passage.text_block, Passage.keyword,
          Contribution.embedding, Contribution.single]
  | some refusal =>
      cases hFinished : (a.before.builder name).isFinished with
      | true =>
          have hNone : passages = [] := by
            simp [passages, Asked.passages, hRefusal,
              hFinished]
          rcases ask_of_finished a.before name a.request
              hFinished with
            ⟨other, hAnswer⟩
          rw [hNone, Asked.answer, hAnswer]
          exact ⟨rfl, rfl⟩
      | false =>
          have hRemains : passages = a.request.remains := by
            simp [passages, Asked.passages, hRefusal,
              hFinished]
          rw [hRemains, Asked.answer,
            answer_of_broken_off a.before name a.request
              refusal hFinished hRefusal]
          exact remains_of_request a.request

end Desk

end CypherAssembly

------------------------------------------------------------
-- Passages of Queries
------------------------------------------------------------

namespace CypherAssembly

namespace Desk

/- All passages of a query after a run. -/
def passages
    (commands : List Command)
    (name : String) : List Passage :=
  (fresh.asked name commands).flatMap
    (Asked.passages name (fresh.run commands).finalText)

/- The clauses of a query are those of its passages. -/
theorem clauses_eq_passages
    (commands : List Command)
    (name : String) :
    ((fresh.run commands).builder name).clauses =
      (passages commands name).map Passage.keyword := by
  rw [clauses_run, passages, List.map_flatMap]
  exact
    List.flatMap_congr fun a hMem =>
      (answer_passages commands name a hMem).2

/- Its text is its passages with newlines between them. -/
theorem finalText_eq_passages
    (commands : List Command)
    (name : String) :
    (fresh.run commands).finalText name =
      "\n".intercalate
        ((passages commands name).map Passage.body) := by
  have hText :
      String.join
          ((fresh.answers name commands).map (·.text)) =
        String.join
          ((passages commands name).map Passage.text) := by
    rw [passages, List.map_flatMap, join_flatMap,
      answers_eq_map_asked, List.map_map]
    apply congrArg String.join
    exact
      List.map_congr_left fun a hMem =>
        (answer_passages commands name a hMem).1
  have hSeparated :
      (passages commands name).map Passage.text =
        ((passages commands name).map Passage.body).map
          (· ++ "\n") := by
    rw [List.map_map]
    rfl
  rw [finalText_run_of_open fresh name commands rfl, hText,
    hSeparated,
    show (fresh.builder name).text = "" from rfl,
    String.empty_append, trimSuffix_join]

end Desk

end CypherAssembly

------------------------------------------------------------
-- Reading Clauses
------------------------------------------------------------

namespace CypherAssembly

/- The keywords of the clauses in a text. -/
def clausesIn
    (text : String) : List Keyword :=
  ((linesOf text).filter isOuter).filterMap Keyword.ofLine?

namespace Desk

/- The queries that are embedded in a query. -/
def embedded
    (commands : List Command)
    (name : String) : List String :=
  (fresh.asked name commands).filterMap
    (Asked.embedded? name)

/-
  All texts that are written in a query, or in the queries
  that are embedded in it, are single lines.
-/
def IsLegible
    (commands : List Command)
    (name : String) : Prop :=
  ∀ other ∈ name :: embedded commands name,
    ∀ a ∈ fresh.asked other commands, a.IsLegible other

instance
    (commands : List Command)
    (name : String) :
    Decidable (IsLegible commands name) := by
  unfold IsLegible
  infer_instance

/- Operands are single lines if all texts in a query are. -/
theorem operands_of_legible
    (commands : List Command)
    (name : String)
    (hLegible :
      ∀ a ∈ fresh.asked name commands, a.IsLegible name) :
    ∀ p ∈ passages commands name,
      '\n' ∉ p.operand.toList := by
  intro p hPassage
  rcases List.mem_flatMap.mp hPassage with ⟨a, hMem, hOf⟩
  have hTexts := hLegible a hMem
  unfold Asked.passages at hOf
  unfold Asked.IsLegible at hTexts
  split at hOf
  · rename_i hAccepted
    have hSingle := hTexts (Option.isNone_iff_eq_none.mp hAccepted)
    cases hRequest : a.request with
    | add made =>
        rw [hRequest] at hOf hSingle
        cases made with
        | error refusal => cases hOf
        | ok c => exact c.operands_of_texts hSingle p hOf
    | embed inner =>
        rw [hRequest, Request.passages] at hOf
        split at hOf
        · cases hOf
        · rw [List.mem_singleton.mp hOf, Passage.operand]
          decide
  · split at hOf
    · cases hOf
    · rw [a.request.eq_of_mem_remains hOf, Passage.operand]
      decide

/- A query in single lines has no empty line at its end. -/
theorem finalText_of_legible
    (commands : List Command)
    (name : String)
    (hLegible :
      ∀ a ∈ fresh.asked name commands, a.IsLegible name) :
    ¬ "\n".toList <:+
      ((fresh.run commands).finalText name).toList := by
  have hOperands :=
    operands_of_legible commands name hLegible
  rw [finalText_eq_passages]
  cases hPassages : passages commands name with
  | nil => decide
  | cons p rest =>
      rw [hPassages] at hOperands
      apply not_suffix_of_isUnended
      apply isUnended_intercalate
      · simp
      · intro body hBody
        rcases List.mem_map.mp hBody with ⟨q, hMem, rfl⟩
        exact q.isUnended_body (hOperands q hMem)

/- A block among the passages is an embedded query. -/
theorem embedded_of_block
    (commands : List Command)
    (name text : String)
    (hMem : .block text ∈ passages commands name) :
    ∃ inner ∈ embedded commands name,
      text = (fresh.run commands).finalText inner := by
  rcases List.mem_flatMap.mp hMem with ⟨a, hAsked, hOf⟩
  unfold Asked.passages at hOf
  split at hOf
  · rename_i hNone
    have hAccepted := Option.isNone_iff_eq_none.mp hNone
    rcases answer_cases commands name a hAsked hAccepted with
      ⟨c, hRequest, _, _⟩ | ⟨hRequest, _⟩ |
        ⟨inner, hNe, hRequest, hEmbedded, _⟩
    · rw [hRequest] at hOf
      exact absurd hOf (c.block_not_mem_passages text)
    · simp [hRequest, Request.passages] at hOf
    · rw [hRequest, Request.passages, if_neg hNe] at hOf
      have hText := List.mem_singleton.mp hOf
      exact
        ⟨inner, List.mem_filterMap.mpr ⟨a, hAsked, hEmbedded⟩,
          Passage.block.inj hText⟩
  · split at hOf
    · cases hOf
    · cases a.request.eq_of_mem_remains hOf

/-
  The lines of a query that are not indented and close no
  block are the first lines of its passages.
-/
theorem outer_lines_of_legible
    (commands : List Command)
    (name : String)
    (hLegible : IsLegible commands name)
    (hSome : passages commands name ≠ []) :
    (linesOf ((fresh.run commands).finalText name)).filter
        isOuter =
      (passages commands name).map Passage.heading := by
  have hOperands :=
    operands_of_legible commands name
      (hLegible name List.mem_cons_self)
  have hEach :
      ∀ p ∈ passages commands name,
        (linesOf p.body).filter isOuter = [p.heading] := by
    intro p hMem
    apply p.outer_lines (hOperands p hMem)
    rintro text rfl
    rcases embedded_of_block commands name text hMem with
      ⟨inner, hInner, rfl⟩
    apply finalText_of_legible
    exact hLegible inner (List.mem_cons_of_mem _ hInner)
  rw [finalText_eq_passages,
    linesOf_intercalate _ (by simpa using hSome),
    List.flatMap_map, List.filter_flatMap,
    List.flatMap_congr hEach, List.map_eq_flatMap]

/- So the clauses of a query can be read off its text. -/
theorem clausesIn_finalText
    (commands : List Command)
    (name : String)
    (hLegible : IsLegible commands name) :
    clausesIn ((fresh.run commands).finalText name) =
      ((fresh.run commands).builder name).clauses := by
  have hRead :
      Keyword.ofLine? ∘ Passage.heading =
        some ∘ Passage.keyword := by
    funext p
    rw [Function.comp_apply, p.heading_eq,
      Keyword.ofLine?_line, Function.comp_apply]
  rw [clauses_eq_passages, clausesIn]
  by_cases hNone : passages commands name = []
  · rw [finalText_eq_passages, hNone]
    decide
  · rw [outer_lines_of_legible commands name hLegible hNone,
      List.filterMap_map, hRead, List.filterMap_eq_map]

/-
  The lines of a query that are not indented and close no
  block are one for each clause, in order: the keyword with
  its operand.  So the clauses can be read off the text, and
  queries with the same text have the same clauses.
-/
theorem clauses_read_off_text
    (commands : List Command)
    (name : String)
    (hLegible : IsLegible commands name) :
    let d := fresh.run commands
    (d.builder name).clauses =
        (passages commands name).map Passage.keyword ∧
      ((d.builder name).clauses ≠ [] →
        (linesOf (d.finalText name)).filter isOuter =
          (passages commands name).map Passage.heading) ∧
      clausesIn (d.finalText name) =
        (d.builder name).clauses ∧
      ∀ (others : List Command) (other : String),
        let d' := fresh.run others
        IsLegible others other →
          d'.finalText other = d.finalText name →
            (d'.builder other).clauses =
              (d.builder name).clauses := by
  intro d
  have hClauses := clauses_eq_passages commands name
  have hRead := clausesIn_finalText commands name hLegible
  refine ⟨hClauses, ?_, hRead, ?_⟩
  · intro hSome
    have hPassages : passages commands name ≠ [] := by
      rw [hClauses] at hSome
      simpa using hSome
    exact
      outer_lines_of_legible commands name hLegible hPassages
  · intro others other d' hLegible' hSame
    have hRead' := clausesIn_finalText others other hLegible'
    rw [← hRead', hSame, hRead]

/-
  A query around a query around a query without clauses.
  One operand is empty since it fails, another one looks like
  the end of a block, and two requests are refused.
-/
def outlinedRun : List Command :=
  [.ask "middle" (.embed "low"),
    .ask "middle"
      (.add (.ok (.projections .returned
        [.fixed (.text "\x7d")]))),
    .ask "high"
      (.add (.ok (.conditions [.failing .blankCondition]))),
    .ask "high" (.add (.ok (.conditions [.fixed (.int 3)]))),
    .ask "high" (.embed "middle"),
    .ask "high" (.add (.ok (.union true))),
    .ask "high" (.add (.ok (.page (.int 3) (.int 20)))),
    .execute "high",
    .ask "high" (.add (.ok (.limit (.int 1))))]

/- The lines and the clauses of the outermost query. -/
theorem clauses_of_outlinedRun :
    let d := fresh.run outlinedRun
    IsLegible outlinedRun "high" ∧
      (linesOf (d.finalText "high")).filter isOuter =
        ["WHERE ", "CALL \x7b", "UNION ALL", "SKIP 40",
          "LIMIT 20"] ∧
      clausesIn (d.finalText "high") =
        [.filtering, .call, .unionAll, .skip, .limit] := by
  intro d
  have hLegible : IsLegible outlinedRun "high" := by
    decide
  rcases clauses_read_off_text outlinedRun "high" hLegible
    with ⟨hClauses, hLines, hRead, _⟩
  have hKeywords :
      (passages outlinedRun "high").map Passage.keyword =
        [.filtering, .call, .unionAll, .skip, .limit] := by
    decide
  refine ⟨hLegible, ?_, ?_⟩
  · have hSome : (d.builder "high").clauses ≠ [] := by
      rw [hClauses, hKeywords]
      simp
    exact (hLines hSome).trans (by decide)
  · rw [hRead, hClauses, hKeywords]

end Desk

end CypherAssembly
