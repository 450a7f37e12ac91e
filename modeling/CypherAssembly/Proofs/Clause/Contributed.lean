import CypherAssembly.Proofs.Clause.Faults
import CypherAssembly.Proofs.Value.Printed

/-
  What clauses contribute when they are not refused.

  Key definitions include:
    * `Clause.keywords`

  Key theorems include:
    * `Contribution.joining_eq_of_accepted`
    * `Clause.ofPage_cases`
    * `Clause.contribution_eq`
    * `Clause.contribution_text`
    * `Clause.contribution_clauses`
    * `Clause.contribution_faults`

  A clause that is not refused contributes its line, its
  keywords and the faults of its arguments, or a single fault
  if there is nothing to say.  All that is known of the steps
  in which clauses are assembled is in the lemmas on
  contributions of one kind.
-/

------------------------------------------------------------
-- Pieces That Are Joined
------------------------------------------------------------

namespace CypherAssembly

/-
  What is not refused when its pieces are joined is the same
  as before.
-/
theorem Contribution.joining_eq_of_accepted
    {pieces : List Content}
    {x y : Contribution}
    (hAccepted : (x.joining pieces).refusal = none)
    (hEq : x.refusal = none → x = y) :
    x.joining pieces = y := by
  have hSame : x.joining pieces = x := by
    unfold joining at hAccepted ⊢
    split
    · simp_all [refused]
    · rfl
  rw [hSame] at hAccepted ⊢
  exact hEq hAccepted

namespace Clause

/- No separator begins in the keyword of a removal. -/
theorem separator_inside
    (operand : List Char)
    (hWhole : [',', ' '] <:+ "REMOVE ".toList ++ operand) :
    [',', ' '] <:+ operand := by
  rcases operand with _ | ⟨c, _ | ⟨c', rest⟩⟩
  · revert hWhole
    decide
  · have hTwo :
        [',', ' '] <:+ ("REMOVE ".toList ++ [c]).drop 6 :=
      List.suffix_of_suffix_length_le hWhole
        (List.drop_suffix 6 _) (by simp)
    simp [List.suffix_iff_eq_drop] at hTwo
  · exact
      List.suffix_of_suffix_length_le hWhole
        (List.suffix_append _ _) (by simp)

end Clause

end CypherAssembly

------------------------------------------------------------
-- Contributions of One Kind
------------------------------------------------------------

namespace CypherAssembly

namespace Clause

/- Patterns contribute their texts side by side. -/
theorem ofPatterns_eq
    (k : Keyword)
    (given : List Content)
    (hAccepted : (ofPatterns k given).refusal = none) :
    ofPatterns k given =
      if given.isEmpty then .rejected (.emptyPatterns k)
      else
        .single k
          (k.clause
            (String.join (given.map Content.patternText)))
          (given.zipIdx.filterMap fun a =>
            a.1.patternFaultAt? (.inClause k.text a.2)) := by
  unfold ofPatterns at hAccepted ⊢
  split
  · rfl
  · cases hOutcome :
        (resolveAll (.ok (some k.text)) given).outcome with
    | error r => simp_all [Contribution.refused]
    | ok operand =>
        simp only [hOutcome]
        rw [resolveAll_faults k.text given operand hOutcome,
          resolveAll_ok _ given operand hOutcome]
        rfl

/- Conditions contribute their texts side by side. -/
theorem ofConditions_eq
    (given : List Content) :
    ofConditions given =
      if given.isEmpty then
        .rejected (.emptyClause .filtering)
      else
        .single .filtering
          (Keyword.filtering.clause
            (String.join (given.map Content.textOrEmpty)))
          (given.zipIdx.filterMap fun a =>
            a.1.faultAt? (.inClause "WHERE" a.2)) := by
  unfold ofConditions
  rw [Contribution.line, value_concat, faults_concat]
  rfl

/- Projected expressions contribute their texts in a row. -/
theorem ofProjections_eq
    (k : Keyword)
    (given : List Content) :
    ofProjections k given =
      if given.isEmpty then .rejected (.emptyClause k)
      else
        .single k
          (k.clause
            (", ".intercalate
              (given.map Content.textOrEmpty)))
          (given.zipIdx.filterMap fun a =>
            a.1.faultAt? (.inClause k.text a.2)) := by
  unfold ofProjections
  split
  · rfl
  · rename_i hSome
    have hTexts : given.map Content.textOrEmpty ≠ [] := by
      simpa using hSome
    have hFaults := faults_composeFrom k.text 0 given
    simp only [Contribution.trimmedLine, Keyword.phrase,
      compose, value_composeFrom, join_separated ", " _ hTexts]
    rw [← String.append_assoc, trimSuffix_append]
    exact congrArg (Contribution.single k _) hFaults

/- A single operand contributes its text. -/
theorem ofSingle_eq
    (k : Keyword)
    (given : Content)
    (hAccepted : (ofSingle k given).refusal = none) :
    ofSingle k given =
      if given.isVacant then .rejected (.emptyClause k)
      else
        .single k (k.clause given.textOrEmpty)
          (given.faultAt? (.inClause k.text 0)).toList := by
  unfold ofSingle unlessVacant at hAccepted ⊢
  cases hObstacle : given.obstacle? with
  | some problem =>
      simp [hObstacle, Contribution.refused] at hAccepted
  | none =>
      simp only [Contribution.line, value_renderOne,
        faults_renderOne]

/- A target contributes its text, with one comma less. -/
theorem ofRemoval_eq
    (target : Content)
    (hAccepted : (ofRemoval target).refusal = none) :
    ofRemoval target =
      if target.isVacant then .rejected (.emptyClause .remove)
      else
        .single .remove
          (Keyword.remove.clause
            (trimSuffix ", " target.textOrEmpty))
          (target.faultAt? (.inClause "REMOVE" 0)).toList := by
  unfold ofRemoval unlessVacant at hAccepted ⊢
  cases hObstacle : target.obstacle? with
  | some problem =>
      simp [hObstacle, Contribution.refused] at hAccepted
  | none =>
      have hPhrase :
          trimSuffix ", "
              (Keyword.remove.phrase target.textOrEmpty) =
            Keyword.remove.phrase
              (trimSuffix ", " target.textOrEmpty) :=
        trimSuffix_append_left ", " "REMOVE " _
          (separator_inside _)
      simp only [Contribution.trimmedLine, value_concat,
        faults_concat, List.map_cons, List.map_nil,
        String.join_cons, String.join_nil,
        String.append_empty, hPhrase, Keyword.clause]
      rw [filterMap_zipIdx_singleton fun i c =>
        c.faultAt? (.inClause Keyword.remove.text i)]
      rfl

/- A number of rows that is written is written as it is. -/
theorem rowCount_ok
    {count : Value}
    {text : String}
    (hOk : rowCount count = .ok text) :
    text = count.plain :=
  (Value.inText_ok (eq_ok_of_mapError_ok hOk)).2

/- A number of rows contributes a line of its own. -/
theorem ofCount_eq
    (k : Keyword)
    (count : Value)
    (hAccepted : (ofCount k count).refusal = none) :
    ofCount k count =
      .single k (k.clause count.plain) [] := by
  unfold ofCount at hAccepted ⊢
  cases hCount : rowCount count with
  | error r =>
      rw [hCount] at hAccepted
      cases hAccepted
  | ok text =>
      rw [rowCount_ok hCount]
      rfl

/- A number that is found too small is below one. -/
theorem isBelowOne_of_fromOne
    (v : Value)
    (hOk : fromOne v = .ok none) :
    v.isBelowOne = true := by
  unfold fromOne at hOk
  unfold Value.isBelowOne
  cases hAmount : v.amount? with
  | none => simp [hAmount] at hOk
  | some a =>
      cases hBelow : a.isBelow (.whole 1) with
      | true => exact hBelow
      | false => simp [hAmount, hBelow] at hOk

/- Any other number is the amount that it is. -/
theorem amount_of_fromOne
    (v : Value)
    (a : Amount)
    (hOk : fromOne v = .ok (some a)) :
    v.isBelowOne = false ∧ v.amount? = some a := by
  unfold fromOne at hOk
  unfold Value.isBelowOne
  cases hAmount : v.amount? with
  | none => simp [hAmount] at hOk
  | some b =>
      cases hBelow : b.isBelow (.whole 1) with
      | true => simp [hAmount, hBelow] at hOk
      | false => simp_all

/- Rows of whole numbers are counted exactly. -/
theorem rowsBefore_whole
    (p s : Int) :
    rowsBefore (.whole p) (.whole s) =
      if Decimal.isTooLong ((p - 1) * s) then
        .error .tooLong
      else .ok (Decimal.ofInt ((p - 1) * s)) := by
  simp only [rowsBefore, Amount.minus, Amount.times,
    Amount.combine, bind, Except.bind]
  exact congrArg (fun n => (Amount.whole n).text) rfl

/- Rows that were counted are the rows before the page. -/
theorem rowsBefore_ok
    (number size : Value)
    (p s : Amount)
    (text : String)
    (hNumber : number.amount? = some p)
    (hSize : size.amount? = some s)
    (hOk : rowsBefore p s = .ok text) :
    text = number.rowsBefore size := by
  unfold Value.rowsBefore
  simp only [hNumber, hSize]
  cases p with
  | binary x => simp [hOk, Except.toOption]
  | whole p =>
      cases s with
      | binary x => simp [hOk, Except.toOption]
      | whole s =>
          rw [rowsBefore_whole] at hOk
          split at hOk
          · cases hOk
          · exact (Except.ok.inj hOk).symm

/- A page is out of range for its number, else for its size. -/
theorem ofPage_cases
    (number size : Value)
    (x : Contribution)
    (hOk : ofPage number size = .ok x) :
    (number.isBelowOne = true ∧
        x = .rejected (.pageOutOfRange .page)) ∨
      (number.isBelowOne = false ∧
        size.isBelowOne = true ∧
          x = .rejected (.pageOutOfRange .pageSize)) ∨
      (number.isBelowOne = false ∧
        size.isBelowOne = false ∧
          (∃ p s,
            number.amount? = some p ∧
              size.amount? = some s ∧
                rowsBefore p s =
                  .ok (number.rowsBefore size)) ∧
          x =
            .paged (number.rowsBefore size)
              (rowCount size)) := by
  rcases exists_of_bind_ok hOk with
    ⟨position, hNumber, hRest⟩
  cases position with
  | none =>
      cases hRest
      exact Or.inl ⟨isBelowOne_of_fromOne number hNumber, rfl⟩
  | some p =>
      right
      rcases amount_of_fromOne number p hNumber with
        ⟨hNumberFits, hNumberAmount⟩
      rcases exists_of_bind_ok hRest with
        ⟨rows, hSize, hRest⟩
      cases rows with
      | none =>
          cases hRest
          exact
            Or.inl
              ⟨hNumberFits, isBelowOne_of_fromOne size hSize,
                rfl⟩
      | some s =>
          rcases amount_of_fromOne size s hSize with
            ⟨hSizeFits, hSizeAmount⟩
          rcases exists_of_bind_ok hRest with
            ⟨before, hRows, hRest⟩
          cases hRest
          have hBefore : rowsBefore p s = .ok before :=
            eq_ok_of_mapError_ok hRows
          have hText :=
            rowsBefore_ok number size p s before
              hNumberAmount hSizeAmount hBefore
          subst hText
          exact
            Or.inr
              ⟨hNumberFits, hSizeFits,
                ⟨p, s, hNumberAmount, hSizeAmount, hBefore⟩,
                rfl⟩

end Clause

end CypherAssembly

------------------------------------------------------------
-- Contributions of Any Kind
------------------------------------------------------------

namespace CypherAssembly

namespace Clause

/- The keywords of the clauses that a request asks for. -/
def keywords : Clause → List Keyword
  | page _ _ => [.skip, .limit]
  | call _ => []
  | c => [c.keyword]

/-
  A clause that is not refused contributes all of its parts,
  or a fault if there is nothing to say.
-/
theorem contribution_eq
    (c : Clause)
    (hAccepted : c.contribution.refusal = none) :
    c.contribution =
      if c.isRejected then .rejected c.guardFault
      else
        { text := c.line
          clauses := c.keywords
          faults := c.argumentFaults
          refusal := none } := by
  cases c with
  | patterns kind given =>
      apply Contribution.joining_eq_of_accepted hAccepted
      intro hGiven
      rw [ofPatterns_eq kind.keyword given hGiven]
      cases kind <;> rfl
  | conditions given =>
      apply Contribution.joining_eq_of_accepted hAccepted
      exact fun _ => ofConditions_eq given
  | projections kind given =>
      apply Contribution.joining_eq_of_accepted hAccepted
      intro _
      rw [ofProjections_eq kind.keyword given]
      cases kind <;> rfl
  | delete detach target =>
      apply Contribution.joining_eq_of_accepted hAccepted
      intro hGiven
      rw [ofSingle_eq _ target hGiven,
        argumentFaults_of_single _ target rfl]
      cases detach <;> rfl
  | remove target =>
      apply Contribution.joining_eq_of_accepted hAccepted
      intro hGiven
      rw [ofRemoval_eq target hGiven,
        argumentFaults_of_single _ target rfl]
      rfl
  | orderBy order =>
      apply Contribution.joining_eq_of_accepted hAccepted
      intro hGiven
      rw [ofSingle_eq _ order hGiven,
        argumentFaults_of_single _ order rfl]
      rfl
  | union keepAll => cases keepAll <;> rfl
  | limit count =>
      rw [contribution, ofCount_eq .limit count hAccepted]
      rfl
  | skip count =>
      rw [contribution, ofCount_eq .skip count hAccepted]
      rfl
  | page number size =>
      simp only [contribution] at hAccepted ⊢
      cases hPage : ofPage number size with
      | error r =>
          simp [hPage, Contribution.orRefused,
            Contribution.refused] at hAccepted
      | ok x =>
          rcases ofPage_cases number size x hPage with
            ⟨hNumber, rfl⟩ | ⟨hNumber, hSize, rfl⟩ |
              ⟨hNumber, hSize, _, rfl⟩
          · simp [isRejected, guardFault, hNumber,
              Contribution.orRefused]
          · simp [isRejected, guardFault, hNumber, hSize,
              Contribution.orRefused]
          · simp only [isRejected, hNumber, hSize,
              Bool.or_self, Bool.false_eq_true, if_false]
            cases hCount : rowCount size with
            | error r =>
                rw [hPage, hCount] at hAccepted
                cases hAccepted
            | ok text =>
                rw [rowCount_ok hCount]
                rfl
  | call given => cases hAccepted

/-
  What a clause contributes to the text is its fragment,
  unless it is refused.
-/
theorem contribution_text
    (c : Clause)
    (hAccepted : c.contribution.refusal = none) :
    c.contribution.text = c.fragment := by
  rw [c.contribution_eq hAccepted, fragment]
  split <;> rfl

/- Its keywords are those of the clauses that it adds. -/
theorem contribution_clauses
    (c : Clause)
    (hAccepted : c.contribution.refusal = none) :
    c.contribution.clauses =
      if c.isRejected then [] else c.keywords := by
  rw [c.contribution_eq hAccepted]
  split <;> rfl

/- Its faults are the fault of the guard or of arguments. -/
theorem contribution_faults
    (c : Clause)
    (hAccepted : c.contribution.refusal = none) :
    c.contribution.faults = c.faults := by
  rw [c.contribution_eq hAccepted, faults]
  split <;> rfl

end Clause

end CypherAssembly
