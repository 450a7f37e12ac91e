import CypherAssembly.Proofs.Clause.Contributed
import CypherAssembly.Proofs.Text.Lines

/-
  Clauses as they stand in a text, and how their keywords
  are read off its lines.

  Key definitions include:
    * `Keyword.line`
    * `Keyword.ofLine?`
    * `isOuter`
    * `Passage`
    * `Clause.passages`
    * `Clause.texts`

  Key theorems include:
    * `Keyword.ofLine?_line`
    * `Passage.outer_lines`
    * `Clause.contribution_passages`
    * `Clause.operands_of_texts`

  A clause with an operand in a single line is a single line
  of the text, and its keyword is in front of it.  A CALL
  block has more lines, but all of them are indented except
  for the first and the last.
-/

------------------------------------------------------------
-- Lines of Clauses
------------------------------------------------------------

namespace CypherAssembly

namespace Keyword

/- Holds for the keywords that are clauses by themselves. -/
def isAlone : Keyword → Bool
  | union => true
  | unionAll => true
  | _ => false

/- The line of a clause with an operand, if it takes one. -/
def line
    (k : Keyword)
    (operand : String) : String :=
  if k.isAlone then k.text else k.phrase operand

/- What every line of a clause starts with. -/
def front
    (k : Keyword) : String :=
  if k.isAlone then k.text else k.text ++ " "

/- Holds for the lines of a clause with this keyword. -/
def opens
    (k : Keyword)
    (line : String) : Bool :=
  if k.isAlone then line == k.text
  else k.front.toList.isPrefixOf line.toList

/- The keyword that is read off a line. -/
def ofLine?
    (line : String) : Option Keyword :=
  all.find? (·.opens line)

theorem front_prefix_line
    (k : Keyword)
    (operand : String) :
    k.front.toList <+: (k.line operand).toList := by
  unfold front line
  split
  · exact List.prefix_rfl
  · exact ⟨operand.toList, by simp [phrase]⟩

theorem opens_line
    (k : Keyword)
    (operand : String) :
    k.opens (k.line operand) = true := by
  have hFront := k.front_prefix_line operand
  unfold opens
  split
  · rename_i hAlone
    simp [line, hAlone]
  · exact List.isPrefixOf_iff_prefix.mpr hFront

/-
  Only the line of UNION starts in the same way as the line
  of another clause.
-/
theorem eq_of_front_prefix
    (k k' : Keyword)
    (hFront : k.front.toList <+: k'.front.toList) :
    k = k' ∨ k = union ∧ k' = unionAll := by
  have hAll :
      ∀ k ∈ all, ∀ k' ∈ all,
        k.front.toList <+: k'.front.toList →
          k = k' ∨ k = union ∧ k' = unionAll := by
    decide +kernel
  exact hAll k k.mem_all k' k'.mem_all hFront

/- A line is the line of a single keyword. -/
theorem eq_of_opens_line
    (k k' : Keyword)
    (operand : String)
    (hOpens : k'.opens (k.line operand) = true) :
    k' = k := by
  have hFront := k.front_prefix_line operand
  by_cases hAlone : k'.isAlone = true
  · -- the line is the keyword and nothing else
    have hLine : k.line operand = k'.text := by
      simpa [opens, hAlone] using hOpens
    have hSame : k'.front = k'.text := by
      simp [front, hAlone]
    rw [hLine, ← hSame] at hFront
    rcases eq_of_front_prefix k k' hFront with
      rfl | ⟨rfl, rfl⟩
    · rfl
    · exact absurd hLine (by simp [line, isAlone, text])
  · -- both stand in front of the line, so one begins the other
    have hFront' :
        k'.front.toList <+: (k.line operand).toList := by
      simpa [opens, hAlone, List.isPrefixOf_iff_prefix]
        using hOpens
    rcases List.prefix_or_prefix_of_prefix hFront' hFront
      with hFirst | hFirst
    · rcases eq_of_front_prefix k' k hFirst with
        rfl | ⟨rfl, rfl⟩
      · rfl
      · exact absurd rfl hAlone
    · rcases eq_of_front_prefix k k' hFirst with
        rfl | ⟨rfl, rfl⟩
      · rfl
      · exact absurd rfl hAlone

/- A keyword is read off its own lines. -/
theorem ofLine?_line
    (k : Keyword)
    (operand : String) :
    ofLine? (k.line operand) = some k := by
  cases hFound : ofLine? (k.line operand) with
  | none =>
      have hNone :=
        List.find?_eq_none.mp hFound k k.mem_all
      exact absurd (k.opens_line operand) hNone
  | some k' =>
      have hOpens := List.find?_some hFound
      rw [eq_of_opens_line k k' operand hOpens]

/- A letter is the first character of every line. -/
theorem exists_line_eq
    (k : Keyword)
    (operand : String) :
    ∃ c rest,
      (k.line operand).toList = c :: rest ∧
        c.isUpper = true := by
  have hKeyword :
      ∃ c rest,
        k.front.toList = c :: rest ∧ c.isUpper = true := by
    cases k <;> exact ⟨_, _, rfl, by decide⟩
  rcases hKeyword with ⟨c, others, hFront, hUpper⟩
  rcases k.front_prefix_line operand with ⟨rest, hLine⟩
  refine ⟨c, others ++ rest, ?_, hUpper⟩
  rw [← hLine, hFront, List.cons_append]

theorem line_ne_empty
    (k : Keyword)
    (operand : String) :
    k.line operand ≠ "" := by
  intro hEmpty
  rcases k.exists_line_eq operand with ⟨c, rest, hLine, _⟩
  rw [hEmpty] at hLine
  cases hLine

/- It is a single line if the operand is. -/
theorem no_newline_line
    (k : Keyword)
    (operand : String)
    (hOperand : '\n' ∉ operand.toList) :
    '\n' ∉ (k.line operand).toList := by
  have hText : '\n' ∉ k.text.toList := by
    cases k <;> decide
  unfold line
  split
  · exact hText
  · simp [phrase, hText, hOperand]

end Keyword

/-
  Holds for lines that are not indented and do not close a
  block.
-/
def isOuter
    (line : String) : Bool :=
  !("  ".toList.isPrefixOf line.toList) && line != "\x7d"

/- Lines of clauses are not indented. -/
theorem isOuter_line
    (k : Keyword)
    (operand : String) :
    isOuter (k.line operand) = true := by
  rcases k.exists_line_eq operand with
    ⟨c, rest, hLine, hUpper⟩
  have hSpace : c ≠ ' ' := by
    rintro rfl
    cases hUpper
  have hBrace : k.line operand ≠ "\x7d" := by
    intro hClosing
    rw [hClosing] at hLine
    rcases List.cons.inj hLine with ⟨rfl, _⟩
    cases hUpper
  simp [isOuter, hLine, hBrace, List.isPrefixOf,
    hSpace.symm]

/- The lines of a block are indented. -/
theorem isOuter_padded
    (line : String) :
    isOuter (padded 2 line) = false := by
  simp [isOuter, padded, List.isPrefixOf]

end CypherAssembly

------------------------------------------------------------
-- Passages
------------------------------------------------------------

namespace CypherAssembly

/-
  A clause as it stands in a text: the keyword with an
  operand, or a block with a query in it.
-/
inductive Passage where
  | clause (k : Keyword) (operand : String)
  | block (inner : String)
deriving DecidableEq, Repr

namespace Passage

/- The keyword of a passage. -/
def keyword : Passage → Keyword
  | clause k _ => k
  | block _ => .call

/- What stands behind the keyword in the first line. -/
def operand : Passage → String
  | clause _ operand => operand
  | block _ => "\x7b"

/- The first line of a passage. -/
def heading : Passage → String
  | clause k operand => k.line operand
  | block _ => "CALL \x7b"

/- A passage without the newline at its end. -/
def body : Passage → String
  | clause k operand => k.line operand
  | block inner =>
      Block.opening ++ Block.indent inner ++ "\n\x7d"

/- A passage with the newline at its end. -/
def text
    (p : Passage) : String :=
  p.body ++ "\n"

theorem heading_eq
    (p : Passage) :
    p.heading = p.keyword.line p.operand := by
  cases p with
  | clause k operand => rfl
  | block inner =>
      have hCall : "CALL \x7b" = Keyword.call.line "\x7b" := by
        decide
      exact hCall

theorem text_block
    (inner : String) :
    (block inner).text = Block.call inner := by
  rw [← String.toList_inj]
  simp [text, body, Block.call, Block.closing]

/- The last line of a passage is not empty. -/
theorem isUnended_body
    (p : Passage)
    (hOperand : '\n' ∉ p.operand.toList) :
    IsUnended p.body := by
  cases p with
  | clause k operand =>
      apply isUnended_of_no_newline
      · exact k.line_ne_empty operand
      · exact k.no_newline_line operand hOperand
  | block inner =>
      apply isUnended_append
      exact ⟨'\x7d', rfl, by decide⟩

/-
  The first line is the only line that is not indented and
  does not close a block.
-/
theorem outer_lines
    (p : Passage)
    (hOperand : '\n' ∉ p.operand.toList)
    (hInner :
      ∀ inner, p = block inner →
        ¬ "\n".toList <:+ inner.toList) :
    (linesOf p.body).filter isOuter = [p.heading] := by
  cases p with
  | clause k operand =>
      have hLines :
          linesOf (k.line operand) = [k.line operand] :=
        linesOf_of_no_newline _
          (k.no_newline_line operand hOperand)
      rw [body, hLines, heading]
      simp [isOuter_line]
  | block inner =>
      -- only an empty line at the very end would stay where it is
      have hIndented :
          (Block.linesAt 1 inner).filter isOuter = [] := by
        rw [Block.linesAt, if_neg (hInner inner rfl)]
        simp [List.filter_eq_nil_iff, isOuter_padded]
      rw [body, Block.linesOf_call_front, Block.nestedLines,
        List.filter_append, List.filter_append, hIndented,
        List.append_nil, heading]
      decide

end Passage

end CypherAssembly

------------------------------------------------------------
-- Passages of Clauses
------------------------------------------------------------

namespace CypherAssembly

namespace Clause

/- The passages of a clause that has something to say. -/
def stated : Clause → List Passage
  | patterns kind given =>
      [.clause kind.keyword
        (String.join (given.map Content.patternText))]
  | conditions given =>
      [.clause .filtering
        (String.join (given.map Content.textOrEmpty))]
  | projections kind given =>
      [.clause kind.keyword
        (", ".intercalate (given.map Content.textOrEmpty))]
  | delete detach target =>
      [.clause (if detach then .detachDelete else .delete)
        target.textOrEmpty]
  | remove target =>
      [.clause .remove (trimSuffix ", " target.textOrEmpty)]
  | orderBy order => [.clause .orderBy order.textOrEmpty]
  | union keepAll =>
      [.clause (if keepAll then .unionAll else .union) ""]
  | limit count => [.clause .limit count.plain]
  | skip count => [.clause .skip count.plain]
  | page number size =>
      [.clause .skip (number.rowsBefore size),
        .clause .limit size.plain]
  | call _ => []

/- What a clause puts into the text, passage by passage. -/
def passages
    (c : Clause) : List Passage :=
  if c.isRejected then [] else c.stated

/-
  The texts of content and the numbers that are written in
  a clause.
-/
def texts
    (c : Clause) : List String :=
  if c.isRejected then []
  else
    match c with
    | patterns _ given => given.map Content.patternText
    | conditions given => given.map Content.textOrEmpty
    | projections _ given => given.map Content.textOrEmpty
    | delete _ target => [target.textOrEmpty]
    | remove target => [target.textOrEmpty]
    | orderBy order => [order.textOrEmpty]
    | union _ => []
    | limit count => [count.plain]
    | skip count => [count.plain]
    | page number size =>
        [number.rowsBefore size, size.plain]
    | call _ => []

theorem line_eq_stated
    (c : Clause) :
    c.line = String.join (c.stated.map Passage.text) := by
  cases c with
  | patterns kind given =>
      rw [line, kind.opening_eq]
      cases kind <;>
        simp [stated, Passage.text, Passage.body,
          Keyword.line, Keyword.isAlone, Keyword.phrase,
          PatternClause.keyword]
  | projections kind given =>
      rw [line, kind.opening_eq]
      cases kind <;>
        simp [stated, Passage.text, Passage.body,
          Keyword.line, Keyword.isAlone, Keyword.phrase,
          ProjectionKind.keyword]
  | delete detach target =>
      cases detach <;>
        simp [line, stated, Passage.text, Passage.body,
          Keyword.line, Keyword.isAlone, Keyword.phrase,
          Keyword.text]
  | union keepAll =>
      cases keepAll <;> decide
  | _ =>
      simp [line, stated, Passage.text, Passage.body,
        Keyword.line, Keyword.isAlone, Keyword.phrase,
        Keyword.text]

theorem keywords_eq_stated
    (c : Clause) :
    c.keywords = c.stated.map Passage.keyword := by
  cases c <;> rfl

/- A clause that is not refused contributes its passages. -/
theorem contribution_passages
    (c : Clause)
    (hAccepted : c.contribution.refusal = none) :
    c.contribution.text =
        String.join (c.passages.map Passage.text) ∧
      c.contribution.clauses =
        c.passages.map Passage.keyword := by
  rw [c.contribution_text hAccepted,
    c.contribution_clauses hAccepted, fragment, passages]
  split
  · exact ⟨rfl, rfl⟩
  · exact ⟨c.line_eq_stated, c.keywords_eq_stated⟩

/- There are no blocks among the passages of a clause. -/
theorem block_not_mem_passages
    (c : Clause)
    (inner : String) :
    .block inner ∉ c.passages := by
  unfold passages
  split
  · simp
  · cases c <;> simp [stated]

/- Operands are in one line if the texts in them are. -/
theorem operands_of_texts
    (c : Clause)
    (hTexts : ∀ text ∈ c.texts, '\n' ∉ text.toList) :
    ∀ p ∈ c.passages, '\n' ∉ p.operand.toList := by
  unfold passages
  cases hRejected : c.isRejected with
  | true => simp
  | false =>
      simp only [texts, hRejected, Bool.false_eq_true,
        if_false] at hTexts ⊢
      cases c with
      | projections kind given =>
          simpa [stated, Passage.operand] using
            no_newline_intercalate ", " (by decide) _ hTexts
      | remove target =>
          simpa [stated, Passage.operand] using
            no_newline_trimSuffix ", " _
              (hTexts _ List.mem_cons_self)
      | union keepAll => simp [stated, Passage.operand]
      | call given => cases hRejected
      | _ => simpa [stated, Passage.operand] using hTexts

end Clause

end CypherAssembly
