import Mathlib.Logic.ExistsUnique
import CypherAssembly.Proofs.Clause.Contributed
import CypherAssembly.Proofs.Desk.Frame
import CypherAssembly.Proofs.Pattern.Literals

/-
  Pages of results.

  Key definitions include:
    * `Window`
    * `Window.text`
    * `Window.Shows`
    * `Window.ofPage`

  Key theorems include:
    * `Window.text_injective`
    * `Window.shows_ofPage_iff`
    * `Clause.contribution_page`
    * `Clause.clauses_page_iff`
    * `Desk.pages_tile_rows`

  A page is a window on the rows of a result.  Its two lines
  say which window it is, and no other window has the same
  lines.  The windows of pages of one size are laid side by
  side, the first one at the first row, so every row is in
  exactly one of them.
-/

------------------------------------------------------------
-- Windows
------------------------------------------------------------

namespace CypherAssembly

/- So many rows, behind those that are skipped. -/
structure Window where
  before : Int
  size : Int
deriving DecidableEq, Repr

namespace Window

/- The lines that a query has a window from. -/
def text
    (w : Window) : String :=
  ("SKIP " ++ Decimal.ofInt w.before ++ "\n") ++
    ("LIMIT " ++ Decimal.ofInt w.size ++ "\n")

/- Holds for the rows in a window.  The first row is zero. -/
def Shows
    (w : Window)
    (row : Int) : Prop :=
  w.before ≤ row ∧ row < w.before + w.size

/- The window of a page.  The first page is one. -/
def ofPage
    (number size : Int) : Window :=
  { before := (number - 1) * size
    size }

/- A number at the front of a line is known from the text. -/
theorem eq_of_line_eq
    {m n : Int}
    {rest others : String}
    (hEq :
      Decimal.ofInt m ++ "\n" ++ rest =
        Decimal.ofInt n ++ "\n" ++ others) :
    m = n ∧ rest = others := by
  have hNewline :
      ∀ cs, StartsIn (fun c => !isNumberChar c) ('\n' :: cs) :=
    fun cs => startsIn_cons cs rfl
  have hChars := congrArg String.toList hEq
  simp only [String.append_assoc, String.toList_append]
    at hChars
  rcases eq_of_append_eq isNumberChar _ _ _ _
      (Decimal.isNumberChar_of_mem_ofInt m)
      (Decimal.isNumberChar_of_mem_ofInt n)
      (hNewline _) (hNewline _) hChars with
    ⟨hNumber, hRest⟩
  constructor
  · exact
      Decimal.ofInt_injective m n (String.toList_inj.mp hNumber)
  · exact String.toList_inj.mp (List.cons.inj hRest).2

/- So a window is known from its lines. -/
theorem text_injective
    {first second : Window}
    (hEq : first.text = second.text) :
    first = second := by
  have hLines :
      ∀ w : Window,
        w.text =
          "SKIP " ++ (Decimal.ofInt w.before ++ "\n" ++
            ("LIMIT " ++
              (Decimal.ofInt w.size ++ "\n" ++ ""))) := by
    intro w
    simp only [text, String.append_assoc,
      String.append_empty]
  rw [hLines, hLines, String.append_right_inj] at hEq
  rcases eq_of_line_eq hEq with ⟨hBefore, hEq⟩
  rw [String.append_right_inj] at hEq
  rcases eq_of_line_eq hEq with ⟨hSize, _⟩
  cases first
  cases second
  cases hBefore
  cases hSize
  rfl

/- A row is on the page that its number falls on. -/
theorem shows_ofPage_iff
    {size : Int}
    (hSize : 1 ≤ size)
    (number row : Int) :
    (ofPage number size).Shows row ↔
      number = row / size + 1 := by
  have hFirst :
      number - 1 ≤ row / size ↔ (number - 1) * size ≤ row :=
    Int.le_ediv_iff_mul_le (by omega)
  have hLast : row / size < number ↔ row < number * size :=
    Int.ediv_lt_iff_lt_mul (by omega)
  have hNext : number * size = (number - 1) * size + size := by
    rw [Int.sub_mul, Int.one_mul, Int.sub_add_cancel]
  rw [hNext] at hLast
  simp only [Shows, ofPage, ← hFirst, ← hLast]
  omega

/- The next page begins where a page ends. -/
theorem before_next_page
    (number size : Int) :
    (ofPage (number + 1) size).before =
      (ofPage number size).before + size := by
  simp only [ofPage]
  rw [Int.add_sub_cancel, Int.sub_mul, Int.one_mul,
    Int.sub_add_cancel]

end Window

end CypherAssembly

------------------------------------------------------------
-- Pages of Whole Numbers
------------------------------------------------------------

namespace CypherAssembly

/- Whole numbers are compared as they are. -/
theorem Amount.isBelow_whole
    (m n : Int) :
    (Amount.whole m).isBelow (.whole n) = decide (m < n) := by
  have hDistance : Place.distance m 0 n 0 = m - n := by
    simp [Place.distance, twoTo]
  simp only [isBelow, place, Place.less, hDistance,
    decide_eq_decide]
  omega

namespace Clause

theorem fromOne_int
    (n : Int) :
    fromOne (.int n) =
      .ok (if n < 1 then none else some (.whole n)) := by
  simp [fromOne, Value.amount?, Amount.isBelow_whole]

/-
  A page of whole numbers is rejected if one of them is less
  than one.  Otherwise it is there with its window, unless
  one of the numbers in its lines is too long.
-/
theorem contribution_page
    (number size : Int) :
    (page (.int number) (.int size)).contribution =
      if number < 1 then .rejected (.pageOutOfRange .page)
      else if size < 1 then
        .rejected (.pageOutOfRange .pageSize)
      else if Decimal.isTooLong ((number - 1) * size) then
        .refused (.ofProblem (.notComputed .tooLong))
      else if Decimal.isTooLong size then
        { text :=
            "SKIP " ++ Decimal.ofInt ((number - 1) * size) ++
              "\n"
          clauses := [.skip]
          faults := []
          refusal := some (.ofProblem (.notComputed .tooLong)) }
      else
        { text := (Window.ofPage number size).text
          clauses := [.skip, .limit]
          faults := []
          refusal := none } := by
  simp only [contribution, ofPage, fromOne_int]
  by_cases hNumber : number < 1
  · rw [if_pos hNumber, if_pos hNumber]
    rfl
  by_cases hSize : size < 1
  · rw [if_neg hNumber, if_neg hNumber, if_pos hSize,
      if_pos hSize]
    rfl
  rw [if_neg hNumber, if_neg hNumber, if_neg hSize,
    if_neg hSize]
  cases hLong : Decimal.isTooLong ((number - 1) * size) with
  | true =>
      simp only [bind, Except.bind, rowsBefore_whole, hLong]
      rfl
  | false =>
      simp only [bind, Except.bind, rowsBefore_whole, hLong]
      cases hSizeLong : Decimal.isTooLong size with
      | true =>
          have hText :=
            Value.inText_of_tooLong (v := .int size)
              Value.plain hSizeLong
          rw [rowCount, hText]
          rfl
      | false =>
          have hText :=
            Value.inText_of_short (v := .int size)
              Value.plain hSizeLong
          rw [rowCount, hText]
          rfl

/- Both lines are there if nothing stands in their way. -/
theorem clauses_page_iff
    (number size : Int) :
    (page (.int number) (.int size)).contribution.clauses =
        [.skip, .limit] ↔
      1 ≤ number ∧ 1 ≤ size ∧
        Decimal.isTooLong ((number - 1) * size) = false ∧
        Decimal.isTooLong size = false := by
  rw [contribution_page]
  by_cases hNumber : number < 1
  · rw [if_pos hNumber]
    constructor
    · intro hNone
      cases hNone
    · omega
  by_cases hSize : size < 1
  · rw [if_neg hNumber, if_pos hSize]
    constructor
    · intro hNone
      cases hNone
    · omega
  rw [if_neg hNumber, if_neg hSize]
  have hFirst : 1 ≤ number := by omega
  have hSome : 1 ≤ size := by omega
  cases Decimal.isTooLong ((number - 1) * size) with
  | true => simp [Contribution.refused]
  | false =>
      cases Decimal.isTooLong size <;> simp [hFirst, hSome]

/- Then they are the lines of the window. -/
theorem contribution_page_of_clauses
    {number size : Int}
    (hClauses :
      (page (.int number) (.int size)).contribution.clauses =
        [.skip, .limit]) :
    (page (.int number) (.int size)).contribution =
      { text := (Window.ofPage number size).text
        clauses := [.skip, .limit]
        faults := []
        refusal := none } := by
  rcases (clauses_page_iff number size).mp hClauses with
    ⟨hNumber, hSize, hBefore, hShort⟩
  rw [contribution_page, if_neg (by omega), if_neg (by omega),
    hBefore, hShort]
  rfl

end Clause

end CypherAssembly

------------------------------------------------------------
-- Pages Side by Side
------------------------------------------------------------

namespace CypherAssembly

namespace Desk

/-
  Holds when a builder that is asked for a page goes on with
  the two lines of a window and their clauses, and with
  nothing else.
-/
def Emits
    (d : Desk)
    (name : String)
    (number size : Int)
    (w : Window) : Prop :=
  let b := d.builder name
  let asked :=
    d.ask name (.add (.ok (.page (.int number) (.int size))))
  asked.2.refusal = none ∧
    asked.1.builder name =
      { b with
        text := b.text ++ w.text
        clauses := b.clauses ++ [.skip, .limit] }

/-
  An open builder goes on with the window of the page and
  with no other, if there is such a page.
-/
theorem emits_iff
    {d : Desk}
    {name : String}
    (hOpen : (d.builder name).isFinished = false)
    (number size : Int)
    (w : Window) :
    d.Emits name number size w ↔
      1 ≤ number ∧ 1 ≤ size ∧
        Decimal.isTooLong ((number - 1) * size) = false ∧
        Decimal.isTooLong size = false ∧
        w = .ofPage number size := by
  unfold Emits
  simp only [builder_ask_self, ask_add_of_open d name _ hOpen]
  constructor
  · rintro ⟨_, hSame⟩
    have hClauses :=
      List.append_cancel_left (congrArg Builder.clauses hSame)
    have hText := congrArg Builder.text hSame
    rw [Clause.contribution_page_of_clauses hClauses] at hText
    have hWindow := (String.append_right_inj _).mp hText
    rcases (Clause.clauses_page_iff number size).mp hClauses
      with ⟨hNumber, hSize, hBefore, hShort⟩
    exact
      ⟨hNumber, hSize, hBefore, hShort,
        (Window.text_injective hWindow).symm⟩
  · rintro ⟨hNumber, hSize, hBefore, hShort, rfl⟩
    rw [Clause.contribution_page_of_clauses
      ((Clause.clauses_page_iff number size).mpr
        ⟨hNumber, hSize, hBefore, hShort⟩)]
    exact ⟨rfl, by simp [Builder.take]⟩

/-
  A page that is out of range is recorded by an open builder
  and leaves no trace in its query.
-/
theorem builder_ask_page_out_of_range
    {d : Desk}
    {name : String}
    (hOpen : (d.builder name).isFinished = false)
    {number size : Int}
    (hRange : number < 1 ∨ size < 1) :
    let b := d.builder name
    let asked :=
      d.ask name
        (.add (.ok (.page (.int number) (.int size))))
    asked.2.refusal = none ∧
      asked.1.builder name =
        { b with
          faults := b.faults ++
            [.pageOutOfRange
              (if number < 1 then .page else .pageSize)] } := by
  intro b asked
  have hAnswer :
      asked.2 =
        .rejected
          (.pageOutOfRange
            (if number < 1 then .page else .pageSize)) := by
    rw [ask_add_of_open d name _ hOpen,
      Clause.contribution_page]
    by_cases hNumber : number < 1
    · rw [if_pos hNumber, if_pos hNumber]
    · have hSize : size < 1 := by omega
      rw [if_neg hNumber, if_neg hNumber, if_pos hSize]
  constructor
  · rw [hAnswer]
    rfl
  · rw [builder_ask_self, hAnswer]
    simp [Builder.take, Contribution.rejected, b]

/-
  Pages of whole numbers, on a builder that is open.  A page
  that is in range has two lines, which say how many rows
  are skipped and how many follow, unless one of the numbers
  is too long to be written.  Any other page is recorded as
  a fault that names the argument to blame, and nothing else
  happens.  No window begins before the first row, the
  window of the next page begins where a window ends, and
  each row is in the window of exactly one page.
-/
theorem pages_tile_rows
    (d : Desk)
    (name : String)
    (size : Int)
    (hOpen : (d.builder name).isFinished = false) :
    let b := d.builder name
    let asked := fun number : Int =>
      d.ask name
        (.add (.ok (.page (.int number) (.int size))))
    let next := fun number => (asked number).1.builder name
    (∀ number,
      1 ≤ number →
        1 ≤ size →
          Decimal.isTooLong ((number - 1) * size) = false →
            Decimal.isTooLong size = false →
              (asked number).2.refusal = none ∧
                next number =
                  { b with
                    text := b.text ++
                      (("SKIP " ++
                          Decimal.ofInt
                            ((number - 1) * size) ++
                          "\n") ++
                        ("LIMIT " ++ Decimal.ofInt size ++
                          "\n"))
                    clauses :=
                      b.clauses ++ [.skip, .limit] }) ∧
      (∀ number,
        number < 1 ∨ size < 1 →
          (asked number).2.refusal = none ∧
            ∃ f : Fault,
              next number =
                  { b with faults := b.faults ++ [f] } ∧
                f.kind? = some .invalidArgument ∧
                f.message =
                  "error paginate " ++
                    (if number < 1 then "page"
                      else "page_size") ++
                    " must be greater than or equal to 1") ∧
      (∀ number w,
        d.Emits name number size w →
          0 ≤ w.before ∧ w.size = size ∧
            ∀ following,
              d.Emits name (number + 1) size following →
                following.before = w.before + w.size) ∧
      (1 ≤ size →
        Decimal.isTooLong size = false →
          ∀ row,
            0 ≤ row →
              Decimal.isTooLong (row / size * size) = false →
                ∃! number,
                  ∃ w,
                    d.Emits name number size w ∧
                      w.Shows row) := by
  intro b asked next
  refine ⟨?_, ?_, ?_, ?_⟩
  · intro number hNumber hSize hBefore hShort
    exact
      (emits_iff hOpen number size (.ofPage number size)).mpr
        ⟨hNumber, hSize, hBefore, hShort, rfl⟩
  · intro number hRange
    rcases builder_ask_page_out_of_range hOpen hRange with
      ⟨hGoesOn, hNext⟩
    refine
      ⟨hGoesOn,
        .pageOutOfRange
          (if number < 1 then .page else .pageSize),
        hNext, rfl, ?_⟩
    by_cases hNumber : number < 1
    · rw [if_pos hNumber, if_pos hNumber]
      rfl
    · rw [if_neg hNumber, if_neg hNumber]
      rfl
  · intro number w hEmits
    rcases (emits_iff hOpen number size w).mp hEmits with
      ⟨hNumber, hSize, _, _, rfl⟩
    refine ⟨?_, rfl, ?_⟩
    · exact Int.mul_nonneg (by omega) (by omega)
    · intro following hFollowing
      rcases (emits_iff hOpen _ size following).mp hFollowing
        with ⟨_, _, _, _, rfl⟩
      exact Window.before_next_page number size
  · intro hSize hShort row hRow hBefore
    have hQuotient : 0 ≤ row / size :=
      Int.ediv_nonneg hRow (by omega)
    refine ⟨row / size + 1, ?_, ?_⟩
    · refine ⟨.ofPage (row / size + 1) size, ?_, ?_⟩
      · apply (emits_iff hOpen _ size _).mpr
        rw [Int.add_sub_cancel]
        exact ⟨by omega, hSize, hBefore, hShort, rfl⟩
      · exact (Window.shows_ofPage_iff hSize _ row).mpr rfl
    · rintro number ⟨w, hEmits, hShows⟩
      rcases (emits_iff hOpen number size w).mp hEmits with
        ⟨_, _, _, _, rfl⟩
      exact
        (Window.shows_ofPage_iff hSize number row).mp hShows

/-
  Pages of ten rows behind a union.  The third page skips
  twenty rows, and row 25 is on it and on no other page.
  There is no page before the first one.
-/
theorem pages_of_ten_rows :
    let d := fresh.run [.ask "q" (.add (.ok (.union true)))]
    let ask := fun number : Int =>
      (d.ask "q" (.add (.ok (.page (.int number) (.int 10))))
        ).1.builder "q"
    (d.builder "q").isFinished = false ∧
      Decimal.isTooLong 20 = false ∧
      Decimal.isTooLong 10 = false ∧
      (ask 3).text = "UNION ALL\nSKIP 20\nLIMIT 10\n" ∧
      (ask 3).faults = [] ∧
      (ask 0).text = "UNION ALL\n" ∧
      (ask 0).faults.map Fault.message =
        ["error paginate page must be " ++
          "greater than or equal to 1"] ∧
      ∃! number,
        ∃ w, d.Emits "q" number 10 w ∧ w.Shows 25 := by
  intro d ask
  have hOpen : (d.builder "q").isFinished = false := rfl
  have hBefore : Decimal.isTooLong 20 = false := by
    decide
  have hShort : Decimal.isTooLong 10 = false := by
    decide
  rcases pages_tile_rows d "q" 10 hOpen with
    ⟨hInRange, hOutOfRange, _, hRows⟩
  have hThird :=
    (hInRange 3 (by decide) (by decide) hBefore hShort).2
  rcases hOutOfRange 0 (by decide) with
    ⟨_, f, hNext, _, hMessage⟩
  refine ⟨hOpen, hBefore, hShort, ?_, ?_, ?_, ?_, ?_⟩
  · exact congrArg Builder.text hThird
  · exact congrArg Builder.faults hThird
  · exact congrArg Builder.text hNext
  · have hFaults : (ask 0).faults = [f] :=
      congrArg Builder.faults hNext
    rw [hFaults, List.map_singleton, hMessage]
    rfl
  · exact hRows (by decide) hShort 25 (by decide) hBefore

end Desk

end CypherAssembly
