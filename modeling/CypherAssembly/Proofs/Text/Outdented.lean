import CypherAssembly.Proofs.Text.Lines

/-
  Blocks that are undone.

  Key definitions include:
    * `Block.inside`
    * `Block.outdentAfter`
    * `Block.outdent`

  Key theorems include:
    * `Block.toList_indent`
    * `Block.length_indentList`
    * `Block.getElem?_indentList`
    * `Block.outdent_indent`
    * `Block.call_is_undone`

  A text is found again inside of its block.  What stands
  between the opening and the closing line is the indented
  text, and behind each of its newlines but one at the end
  there are two characters that do not belong to it.  It is
  of no account whether the text has spaces there itself.
-/

------------------------------------------------------------
-- Outdenting
------------------------------------------------------------

namespace CypherAssembly

namespace Block

/-
  Characters without the next few of them, and without the
  two behind every newline.  None are behind the last one.
-/
def outdentAfter : Nat → List Char → List Char
  | _, [] => []
  | columns + 1, _ :: rest => outdentAfter columns rest
  | 0, c :: rest =>
      c :: outdentAfter (if c = '\n' then 2 else 0) rest

/- All lines of a text but the first, moved to the left. -/
def outdent
    (text : String) : String :=
  String.ofList (outdentAfter 0 text.toList)

/- What stands between the opening and the closing line. -/
def inside
    (block : String) : String :=
  trimSuffix closing
    (String.ofList (block.toList.drop opening.length))

/- What goes in behind newlines comes out again. -/
theorem outdentAfter_indentList
    (cs : List Char) :
    outdentAfter 0 (indentList cs) = cs := by
  fun_induction indentList cs with
  | case1 => rfl
  | case2 c => rfl
  | case3 d rest ih =>
      simp [outdentAfter, ih]
  | case4 c d rest hNe ih =>
      simp [outdentAfter, hNe, ih]

theorem outdent_indent
    (text : String) :
    outdent (indent text) = text := by
  rw [outdent, indent, String.toList_ofList,
    outdentAfter_indentList, String.ofList_toList]

/- A block has its indented text inside. -/
theorem inside_call
    (text : String) :
    inside (call text) = indent text := by
  have hChars :
      (call text).toList.drop opening.length =
        (indent text ++ closing).toList := by
    rw [call, String.append_assoc, String.toList_append,
      ← String.length_toList, List.drop_left]
  rw [inside, hChars, String.ofList_toList,
    trimSuffix_append]

end Block

end CypherAssembly

------------------------------------------------------------
-- What Indentation Adds
------------------------------------------------------------

namespace CypherAssembly

namespace Block

/-
  All characters but the last are moved apart, and the last
  one stays at the end.
-/
theorem toList_indent
    (text : String) :
    (indent text).toList =
      moved text.toList.dropLast ++
        text.toList.getLast?.toList := by
  rw [indent, String.toList_ofList]
  rcases List.eq_nil_or_concat text.toList with
    hNil | ⟨front, last, hConcat⟩
  · rw [hNil]
    rfl
  · rw [hConcat, List.concat_eq_append, indentList_concat,
      List.dropLast_concat, List.getLast?_concat]
    rfl

/- Two characters more for each newline but a last one. -/
theorem length_indentList
    (cs : List Char) :
    (indentList cs).length =
      cs.length + 2 * cs.dropLast.count '\n' := by
  fun_induction indentList cs with
  | case1 => rfl
  | case2 c => rfl
  | case3 d rest ih =>
      simp only [List.length_cons, List.dropLast_cons_cons,
        List.count_cons_self] at ih ⊢
      omega
  | case4 c d rest hNe ih =>
      simp only [List.length_cons, List.dropLast_cons_cons,
        List.count_cons_of_ne hNe] at ih ⊢
      omega

/- They are no newlines. -/
theorem count_newline_indentList
    (cs : List Char) :
    (indentList cs).count '\n' = cs.count '\n' := by
  fun_induction indentList cs with
  | case1 => rfl
  | case2 c => rfl
  | case3 d rest ih => simp [ih]
  | case4 c d rest hNe ih =>
      simp [List.count_cons_of_ne hNe, ih]

/-
  Each character is found two places further to the right
  for every newline in front of it.
-/
theorem getElem?_indentList
    (cs : List Char)
    (i : Nat) :
    (indentList cs)[i + 2 * (cs.take i).count '\n']? =
      cs[i]? := by
  fun_induction indentList cs generalizing i with
  | case1 => simp
  | case2 c =>
      cases i with
      | zero => rfl
      | succ i =>
          simp
  | case3 d rest ih =>
      cases i with
      | zero => rfl
      | succ i =>
          have hPlace :
              i + 1 +
                  2 * (((d :: rest).take i).count '\n' + 1) =
                i + 2 * ((d :: rest).take i).count '\n' +
                  3 := by
            omega
          rw [List.take_succ_cons, List.count_cons_self,
            hPlace, List.getElem?_cons_succ,
            List.getElem?_cons_succ, List.getElem?_cons_succ,
            List.getElem?_cons_succ, ih]
  | case4 c d rest hNe ih =>
      cases i with
      | zero => rfl
      | succ i =>
          have hPlace :
              i + 1 + 2 * ((d :: rest).take i).count '\n' =
                i + 2 * ((d :: rest).take i).count '\n' +
                  1 := by
            omega
          rw [List.take_succ_cons, List.count_cons_of_ne hNe,
            hPlace, List.getElem?_cons_succ,
            List.getElem?_cons_succ, ih]

end Block

end CypherAssembly

------------------------------------------------------------
-- Undoing a Block
------------------------------------------------------------

namespace CypherAssembly

namespace Block

/-
  A block opens with a line of its own and two spaces, and it
  closes with a brace.  Every text is found again in its
  block, between the lines around it and without the two
  characters behind each newline.  So no two texts have the
  same block.  Behind all
  newlines but one at the end, indentation puts two spaces,
  and it changes nothing else: each character is there, in
  the place that the spaces in front of it move it to, and
  there are as many newlines as before.
-/
theorem call_is_undone
    (text other : String) :
    call text =
        "CALL \x7b\n  " ++ indent text ++ "\n\x7d\n" ∧
      outdent (inside (call text)) = text ∧
      (call text = call other ↔ text = other) ∧
      (indent text).toList =
        moved text.toList.dropLast ++
          text.toList.getLast?.toList ∧
      (indent text).length =
        text.length + 2 * text.toList.dropLast.count '\n' ∧
      (∀ i : Nat,
        (indent text).toList[i +
            2 * (text.toList.take i).count '\n']? =
          text.toList[i]?) ∧
      (indent text).toList.count '\n' =
        text.toList.count '\n' := by
  have hUndone :
      ∀ s, outdent (inside (call s)) = s := by
    intro s
    rw [inside_call, outdent_indent]
  have hChars :
      (indent text).toList = indentList text.toList := by
    rw [indent, String.toList_ofList]
  refine
    ⟨rfl, hUndone text, ⟨?_, ?_⟩, toList_indent text, ?_, ?_,
      ?_⟩
  · intro hSame
    rw [← hUndone text, hSame, hUndone other]
  · rintro rfl
    rfl
  · rw [← String.length_toList, ← String.length_toList,
      hChars, length_indentList]
  · rw [hChars]
    exact getElem?_indentList text.toList
  · rw [hChars, count_newline_indentList]

example :
    outdent (inside (call "WITH 1\n\n  RETURN n\n")) =
      "WITH 1\n\n  RETURN n\n" := by
  decide +kernel

end Block

end CypherAssembly
