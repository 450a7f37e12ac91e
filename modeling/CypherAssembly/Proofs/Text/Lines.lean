import CypherAssembly.Proofs.Text.Ended
import CypherAssembly.Text.Block

/-
  The lines of a text and of a CALL block around it.

  Key definitions include:
    * `linesOf`
    * `padded`
    * `Block.linesAt`
    * `Block.nestedLines`

  Key theorems include:
    * `linesOf_append_newline`
    * `linesOf_intercalate`
    * `Block.linesOf_indent`
    * `Block.exists_linesOf_around`
    * `Block.exists_linesAt_one`

  A block pads every line of its text by two more columns.
  Only the empty line behind a newline at the very end is
  not padded, since nothing is there to be moved.
-/

------------------------------------------------------------
-- Lines
------------------------------------------------------------

namespace CypherAssembly

/- What stands between the newlines of a text. -/
def linesOf
    (text : String) : List String :=
  (text.toList.splitOn '\n').map String.ofList

/- A line behind a number of spaces. -/
def padded
    (columns : Nat)
    (line : String) : String :=
  String.ofList (List.replicate columns ' ') ++ line

theorem padded_padded
    (outer inner : Nat)
    (line : String) :
    padded outer (padded inner line) =
      padded (outer + inner) line := by
  rw [← String.toList_inj]
  simp [padded, ← List.replicate_append_replicate]

/- A newline separates the lines before and behind it. -/
theorem linesOf_append_newline
    (first second : String) :
    linesOf (first ++ "\n" ++ second) =
      linesOf first ++ linesOf second := by
  have hChars :
      (first ++ "\n" ++ second).toList =
        first.toList ++ '\n' :: second.toList := by
    simp
  rw [linesOf, hChars, List.splitOn_append_cons_self,
    List.map_append]
  rfl

theorem linesOf_of_no_newline
    (text : String)
    (hLine : '\n' ∉ text.toList) :
    linesOf text = [text] := by
  have hSingle :
      text.toList.splitOn '\n' = [text.toList] :=
    List.splitOn_eq_singleton hLine
  simp [linesOf, hSingle]

/- Newlines between texts leave their lines as they are. -/
theorem linesOf_intercalate
    (texts : List String)
    (hSome : texts ≠ []) :
    linesOf ("\n".intercalate texts) =
      texts.flatMap linesOf := by
  induction texts with
  | nil => exact absurd rfl hSome
  | cons text rest ih =>
      cases rest with
      | nil => simp
      | cons next rest =>
          have hRest := ih (List.cons_ne_nil next rest)
          rw [String.intercalate_cons_cons,
            linesOf_append_newline, hRest]
          rfl

/- Behind an ended text, lines begin anew. -/
theorem exists_linesOf_of_isEnded
    {front : String}
    (hEnded : IsEnded front) :
    ∃ before, ∀ text,
      linesOf (front ++ text) = before ++ linesOf text := by
  rcases hEnded with rfl | ⟨body, rfl⟩
  · exact ⟨[], fun text => by simp⟩
  · exact
      ⟨linesOf body, fun text =>
        linesOf_append_newline body text⟩

end CypherAssembly

------------------------------------------------------------
-- Single Lines
------------------------------------------------------------

namespace CypherAssembly

/- Single lines with something between them are one line. -/
theorem no_newline_intercalate
    (separator : String)
    (hSeparator : '\n' ∉ separator.toList)
    (texts : List String)
    (hEach : ∀ text ∈ texts, '\n' ∉ text.toList) :
    '\n' ∉ (separator.intercalate texts).toList := by
  induction texts with
  | nil => simp
  | cons text rest ih =>
      have hFirst := hEach text List.mem_cons_self
      have hRest := ih fun other hOther =>
        hEach other (List.mem_cons_of_mem _ hOther)
      cases rest with
      | nil => simpa using hFirst
      | cons next rest =>
          rw [String.intercalate_cons_cons,
            String.toList_append, String.toList_append]
          simp only [List.mem_append, not_or]
          exact ⟨⟨hFirst, hSeparator⟩, hRest⟩

/- Trimming does not put a newline into a text. -/
theorem no_newline_trimSuffix
    (suffix text : String)
    (hLine : '\n' ∉ text.toList) :
    '\n' ∉ (trimSuffix suffix text).toList := by
  rcases trimSuffix_eq_or suffix text with hSame | hTrimmed
  · rwa [hSame]
  · rw [← hTrimmed, String.toList_append] at hLine
    exact fun hMem => hLine (List.mem_append_left _ hMem)

end CypherAssembly

------------------------------------------------------------
-- Lines of Blocks
------------------------------------------------------------

namespace CypherAssembly

namespace Block

/-
  The lines of a text inside of so many blocks.  An empty
  line at the end of the text is moved by all blocks but the
  innermost one.
-/
def linesAt
    (depth : Nat)
    (text : String) : List String :=
  if "\n".toList <:+ text.toList then
    (linesOf text).dropLast.map (padded (2 * depth)) ++
      [padded (2 * (depth - 1)) ""]
  else
    (linesOf text).map (padded (2 * depth))

/- The lines of a text inside of blocks, and of the last. -/
def nestedLines
    (depth : Nat)
    (text : String) : List String :=
  [padded (2 * (depth - 1)) "CALL \x7b"] ++
    linesAt depth text ++ [padded (2 * (depth - 1)) "\x7d"]

/- Two columns more behind each newline. -/
def moved
    (cs : List Char) : List Char :=
  cs.flatMap fun c =>
    if c = '\n' then ['\n', ' ', ' '] else [c]

/- A text is moved but for its last character. -/
theorem indentList_concat
    (cs : List Char)
    (last : Char) :
    indentList (cs ++ [last]) = moved cs ++ [last] := by
  induction cs with
  | nil => rfl
  | cons c rest ih =>
      have hStep :
          ∀ ds, ds ≠ [] →
            indentList (c :: ds) =
              (if c = '\n' then ['\n', ' ', ' ']
                else [c]) ++ indentList ds := by
        intro ds hSome
        cases ds with
        | nil => exact absurd rfl hSome
        | cons d ds =>
            by_cases hNewline : c = '\n'
            · simp [indentList, hNewline]
            · simp [indentList, hNewline]
      rw [List.cons_append, hStep (rest ++ [last]) (by simp),
        ih]
      simp [moved]

/- All lines of a moved text are moved but the first one. -/
theorem splitOn_moved
    (cs : List Char) :
    ∃ first rest,
      cs.splitOn '\n' = first :: rest ∧
        (moved cs).splitOn '\n' =
          first :: rest.map (' ' :: ' ' :: ·) := by
  induction cs with
  | nil => exact ⟨[], [], rfl, rfl⟩
  | cons c cs ih =>
      rcases ih with ⟨first, rest, hLines, hMoved⟩
      by_cases hNewline : c = '\n'
      · refine ⟨[], first :: rest, ?_, ?_⟩
        · simp [List.splitOn_cons_eq_if_modifyHead, hNewline,
            hLines]
        · have hChars :
              moved (c :: cs) =
                '\n' :: ' ' :: ' ' :: moved cs := by
            simp [moved, hNewline]
          simp [hChars, List.splitOn_cons_eq_if_modifyHead,
            hMoved]
      · refine ⟨c :: first, rest, ?_, ?_⟩
        · simp [List.splitOn_cons_eq_if_modifyHead, hNewline,
            hLines]
        · have hChars :
              moved (c :: cs) = c :: moved cs := by
            simp [moved, hNewline]
          simp [hChars, List.splitOn_cons_eq_if_modifyHead,
            hNewline, hMoved]

/- Behind two spaces, the first line is moved like the rest. -/
theorem linesOf_moved
    (text : String) :
    linesOf ("  " ++ String.ofList (moved text.toList)) =
      (linesOf text).map (padded 2) := by
  rcases splitOn_moved text.toList with
    ⟨first, rest, hLines, hMoved⟩
  have hSpaces :
      ("  " ++ String.ofList (moved text.toList)).toList =
        ' ' :: ' ' :: moved text.toList := by
    simp
  have hPadded :
      ∀ line : List Char,
        String.ofList (' ' :: ' ' :: line) =
          padded 2 (String.ofList line) := by
    intro line
    rw [← String.toList_inj]
    simp [padded]
  rw [linesOf, linesOf, hSpaces, hLines]
  simp [List.splitOn_cons_eq_if_modifyHead, hMoved, hPadded]

theorem linesOf_append_single_newline
    (body : String) :
    linesOf (body ++ "\n") = linesOf body ++ [""] := by
  have hEmpty : linesOf "" = [""] := rfl
  rw [← hEmpty, ← linesOf_append_newline body "",
    String.append_empty]

/- A newline at the end is left alone by indentation. -/
theorem indent_append_newline
    (body : String) :
    indent (body ++ "\n") =
      String.ofList (moved body.toList) ++ "\n" := by
  rw [← String.toList_inj]
  simp [indent, indentList_concat]

/- Without it, all of the text is moved. -/
theorem indent_of_not_suffix
    (text : String)
    (hUnended : ¬ "\n".toList <:+ text.toList) :
    indent text = String.ofList (moved text.toList) := by
  rw [indent]
  congr 1
  rcases List.eq_nil_or_concat text.toList with
    hNil | ⟨front, last, hConcat⟩
  · rw [hNil]
    rfl
  · have hLast : last ≠ '\n' := by
      rintro rfl
      exact hUnended ⟨front, by simp [hConcat]⟩
    rw [hConcat, List.concat_eq_append, indentList_concat]
    simp [moved, hLast]

/-
  Indentation moves the lines of a text, except for an empty
  line at its end.
-/
theorem linesOf_indent
    (text : String) :
    linesOf ("  " ++ indent text) = linesAt 1 text := by
  by_cases hEnds : "\n".toList <:+ text.toList
  · rcases exists_append_of_suffix hEnds with ⟨body, rfl⟩
    rw [indent_append_newline, ← String.append_assoc,
      linesOf_append_single_newline, linesOf_moved, linesAt,
      if_pos hEnds, linesOf_append_single_newline]
    simp [padded]
  · rw [indent_of_not_suffix text hEnds, linesOf_moved,
      linesAt, if_neg hEnds]

/- The lines of a block that nothing else stands around. -/
theorem linesOf_call_front
    (text : String) :
    linesOf (opening ++ indent text ++ "\n\x7d") =
      nestedLines 1 text := by
  have hOpening :
      opening ++ indent text ++ "\n\x7d" =
        "CALL \x7b" ++ "\n" ++
          (("  " ++ indent text) ++ "\n" ++ "\x7d") := by
    rw [← String.toList_inj]
    simp [opening]
  rw [hOpening, linesOf_append_newline,
    linesOf_append_newline, linesOf_indent,
    linesOf_of_no_newline "CALL \x7b" (by decide),
    linesOf_of_no_newline "\x7d" (by decide)]
  simp [nestedLines, padded]

/- A block leaves no line open. -/
theorem isEnded_call
    (text : String) :
    IsEnded (call text) := by
  have hClosing : closing = "\n\x7d" ++ "\n" := rfl
  rw [call, hClosing, ← String.append_assoc]
  exact isEnded_append_newline _

/- A block among whole lines has all of its lines there. -/
theorem exists_linesOf_around
    (front back text : String)
    (hFront : IsEnded front)
    (hBack : IsEnded back) :
    ∃ before after,
      linesOf (trimSuffix "\n" (front ++ call text ++ back)) =
        before ++ nestedLines 1 text ++ after := by
  rcases exists_linesOf_of_isEnded hFront with
    ⟨before, hBefore⟩
  let block := opening ++ indent text ++ "\n\x7d"
  have hCall : call text = block ++ "\n" := by
    rw [← String.toList_inj]
    simp [call, closing, block]
  have hBlock : linesOf block = nestedLines 1 text :=
    linesOf_call_front text
  rcases hBack with rfl | ⟨body, rfl⟩
  · have hTrim :
        trimSuffix "\n" (front ++ call text ++ "") =
          front ++ block := by
      rw [hCall, String.append_empty, ← String.append_assoc,
        trimSuffix_append]
    exact ⟨before, [], by rw [hTrim, hBefore, hBlock]; simp⟩
  · have hTrim :
        trimSuffix "\n" (front ++ call text ++ (body ++ "\n")) =
          front ++ (block ++ "\n" ++ body) := by
      rw [hCall, ← String.append_assoc, trimSuffix_append,
        String.append_assoc]
    refine ⟨before, linesOf body, ?_⟩
    rw [hTrim, hBefore, linesOf_append_newline, hBlock,
      List.append_assoc]

end Block

end CypherAssembly

------------------------------------------------------------
-- Blocks Inside of Blocks
------------------------------------------------------------

namespace CypherAssembly

namespace Block

/- One more block moves the lines in it as all others. -/
theorem map_padded_linesAt
    (depth : Nat)
    (text : String)
    (hDepth : 1 ≤ depth) :
    (linesAt depth text).map (padded 2) =
      linesAt (depth + 1) text := by
  have hOuter : 2 + 2 * (depth - 1) = 2 * depth := by
    omega
  have hInner :
      padded 2 ∘ padded (2 * depth) =
        padded (2 * (depth + 1)) := by
    funext line
    have hColumns : 2 + 2 * depth = 2 * (depth + 1) := by
      omega
    simp [padded_padded, hColumns]
  unfold linesAt
  split
  · simp only [List.map_append, List.map_map, hInner,
      List.map_cons, List.map_nil, padded_padded, hOuter]
    rfl
  · rw [List.map_map, hInner]

theorem map_padded_nestedLines
    (depth : Nat)
    (text : String)
    (hDepth : 1 ≤ depth) :
    (nestedLines depth text).map (padded 2) =
      nestedLines (depth + 1) text := by
  have hOuter : 2 + 2 * (depth - 1) = 2 * depth := by
    omega
  simp [nestedLines, padded_padded, hOuter,
    map_padded_linesAt depth text hDepth]

/- The last line of a block is not empty. -/
theorem getLast?_append_nestedLines
    (before : List String)
    (depth : Nat)
    (text : String) :
    (before ++ nestedLines depth text).getLast? ≠
      some "" := by
  rw [nestedLines, ← List.append_assoc, List.getLast?_concat]
  intro hLast
  have hChars :=
    congrArg String.toList (Option.some.inj hLast)
  simp [padded] at hChars

/-
  If the lines of a block are among those of a text, they
  are moved when the text is put into a block.  The line that
  closes the block is not empty, so an empty line at the end
  of the text is none of them.
-/
theorem exists_linesAt_one
    (depth : Nat)
    (outer inner : String)
    (before after : List String)
    (hDepth : 1 ≤ depth)
    (hLines :
      linesOf outer =
        before ++ nestedLines depth inner ++ after) :
    ∃ before' after',
      linesAt 1 outer =
        before' ++ nestedLines (depth + 1) inner ++
          after' := by
  by_cases hEnds : "\n".toList <:+ outer.toList
  · rcases exists_append_of_suffix hEnds with ⟨body, rfl⟩
    have hSome : after ≠ [] := by
      rintro rfl
      rw [linesOf_append_single_newline,
        List.append_nil] at hLines
      apply getLast?_append_nestedLines before depth inner
      rw [← hLines, List.getLast?_concat]
    have hDrop :
        (linesOf (body ++ "\n")).dropLast =
          before ++ nestedLines depth inner ++
            after.dropLast := by
      rw [hLines, List.dropLast_append_of_ne_nil hSome]
    refine
      ⟨before.map (padded 2),
        after.dropLast.map (padded 2) ++ [padded 0 ""], ?_⟩
    rw [linesAt, if_pos hEnds, hDrop]
    simp [map_padded_nestedLines depth inner hDepth]
  · refine
      ⟨before.map (padded 2), after.map (padded 2), ?_⟩
    rw [linesAt, if_neg hEnds, hLines]
    simp [map_padded_nestedLines depth inner hDepth]

end Block

end CypherAssembly
