import CypherAssembly.Proofs.Clause.Offered
import CypherAssembly.Proofs.Pattern.Written
import CypherAssembly.Proofs.Text.Inside

/-
  What there is to see in content.

  Key definitions include:
    * `Value.IsStated`
    * `Content.expressions`
    * `Content.IsStating`
    * `Content.IsDrawn`
    * `Content.IsPattern`

  Key theorems include:
    * `suffix_intercalate_iff`
    * `Targets.render_ofTexts`
    * `Content.isStated_of_render`
    * `Content.expressions_ne_nil`
    * `Content.IsDrawn.isBlank_of_render`

  Content is made of expressions, or it is drawn.  Where it
  can be rendered, every expression in it is a text that is
  not blank, and what is drawn is not blank either, since it
  has parentheses or an arrow around it.
-/

------------------------------------------------------------
-- Blank Texts
------------------------------------------------------------

namespace CypherAssembly

/- Texts are blank together if both of them are blank. -/
theorem isBlank_append
    (first second : String) :
    isBlank (first ++ second) =
      (isBlank first && isBlank second) := by
  rw [isBlank, String.toList_append, List.all_append]
  rfl

/- A text is not blank if something inside of it is not. -/
theorem isBlank_of_isInside
    {part whole : String}
    (hInside : IsInside part whole)
    (hPart : isBlank part = false) :
    isBlank whole = false := by
  rw [isBlank_eq_false_iff] at hPart ⊢
  rcases hPart with ⟨c, hMem, hSeen⟩
  exact ⟨c, List.IsInfix.subset hInside hMem, hSeen⟩

/-
  A comma and a space at the end of a text are at the end of
  the last part of it, unless that part is blank: the space
  alone is no reason for it to be there.
-/
theorem separator_of_append
    {front back : String}
    (hSeen : isBlank back = false)
    (hWhole :
      ", ".toList <:+ front.toList ++ back.toList) :
    ", ".toList <:+ back.toList := by
  rcases hList : back.toList with _ | ⟨c, _ | ⟨c', rest⟩⟩
  · simp [isBlank, hList] at hSeen
  · rw [hList] at hWhole
    have hLast : ' ' = c := by
      have hEnds := hWhole.getLast (by simp)
      simpa using hEnds
    have hBlank : isBlankChar ' ' = true := by decide
    simp [isBlank, hList, ← hLast, hBlank] at hSeen
  · rw [hList] at hWhole
    exact
      List.suffix_of_suffix_length_le hWhole
        (List.suffix_append _ _) (by simp)

/- A row of texts is something in front of the last one. -/
theorem exists_intercalate_eq
    (separator : String)
    (texts : List String)
    (hSome : texts ≠ []) :
    ∃ front,
      separator.intercalate texts =
        front ++ texts.getLast hSome := by
  have hParts := List.dropLast_concat_getLast hSome
  generalize texts.dropLast = others at hParts
  generalize texts.getLast hSome = last at hParts ⊢
  rw [← hParts]
  cases others with
  | nil => exact ⟨"", by simp⟩
  | cons first rest =>
      refine
        ⟨separator.intercalate (first :: rest) ++ separator,
          ?_⟩
      rw [String.intercalate_append_of_ne_nil
          (List.cons_ne_nil first rest)
          (List.cons_ne_nil last []),
        String.intercalate_singleton]

/-
  A row of texts ends like a separator if and only if the
  last text does, unless that one is blank.
-/
theorem suffix_intercalate_iff
    (texts : List String)
    (hSome : texts ≠ [])
    (hSeen : isBlank (texts.getLast hSome) = false) :
    ", ".toList <:+ (", ".intercalate texts).toList ↔
      ", ".toList <:+ (texts.getLast hSome).toList := by
  rcases exists_intercalate_eq ", " texts hSome with
    ⟨front, hRow⟩
  rw [hRow, String.toList_append]
  constructor
  · exact separator_of_append hSeen
  · intro hLast
    exact hLast.trans (List.suffix_append _ _)

/- Nothing can be trimmed off a row of such texts. -/
theorem not_suffix_intercalate
    (texts : List String)
    (hSeen : ∀ text ∈ texts, isBlank text = false)
    (hEnds :
      ∀ text ∈ texts, ¬ ", ".toList <:+ text.toList) :
    ¬ ", ".toList <:+ (", ".intercalate texts).toList := by
  by_cases hNone : texts = []
  · subst hNone
    decide
  · have hLast := List.getLast_mem hNone
    rw [suffix_intercalate_iff texts hNone (hSeen _ hLast)]
    exact hEnds _ hLast

end CypherAssembly

------------------------------------------------------------
-- Expressions
------------------------------------------------------------

namespace CypherAssembly

namespace Value

/- A text with something to see in it. -/
def IsStated
    (v : Value) : Prop :=
  ∃ s, v = .text s ∧ isBlank s = false

theorem IsStated.isBlank_plain
    {v : Value}
    (hStated : v.IsStated) :
    isBlank v.plain = false := by
  rcases hStated with ⟨s, rfl, hSeen⟩
  exact hSeen

/- Values that count as true have elements, if any can. -/
theorem elements_ne_nil
    {v : Value}
    {elements : List Value}
    (hTrue : v.isTrue = true)
    (hElements : v.elements? = some elements) :
    elements ≠ [] := by
  rintro rfl
  cases v <;> simp_all [elements?, isTrue]

end Value

namespace Expression

theorem elements_ok
    {v : Value}
    {results : List Value}
    (hOk : elements v = .ok results) :
    v.elements? = some results := by
  unfold elements at hOk
  split at hOk
  · rename_i hSome
    rw [hSome, Except.ok.inj hOk]
  · cases hOk

theorem text_ok
    {v : Value}
    {s : String}
    (hOk : text v = .ok s) :
    v = .text s := by
  cases v <;> cases hOk
  rfl

/- What can be read is a text that is not blank. -/
theorem read_ok
    {blank : Fault}
    {v : Value}
    {s : String}
    (hOk : read blank v = .ok s) :
    v.IsStated ∧ s = v.plain := by
  rcases exists_of_bind_ok hOk with ⟨t, hText, hOk⟩
  rw [text_ok hText]
  cases hBlank : isBlank t with
  | true =>
      rw [hBlank] at hOk
      cases hOk
  | false =>
      rw [hBlank] at hOk
      cases hOk
      exact ⟨⟨_, rfl, hBlank⟩, rfl⟩

end Expression

/- The text of targets is their elements in a row. -/
theorem Targets.render_ok
    {t : Targets}
    {text : String}
    (hOk : t.render = .ok text) :
    ∃ elements,
      t.items.elements? = some elements ∧
        (∀ v ∈ elements, v.IsStated) ∧
        text = ", ".intercalate (elements.map Value.plain) := by
  rcases exists_of_bind_ok hOk with ⟨items, hItems, hOk⟩
  cases hItems
  rcases exists_of_bind_ok hOk with ⟨elements, hElements, hOk⟩
  rcases exists_of_bind_ok hOk with ⟨texts, hTexts, hOk⟩
  have hEach :
      ∀ v s,
        Expression.text v = .ok s →
          v = .text v.plain ∧ s = v.plain := by
    intro v s hText
    rw [Expression.text_ok hText]
    exact ⟨rfl, rfl⟩
  rcases mapM_ok (fun v => v = .text v.plain) Value.plain
      hEach elements texts hTexts with
    ⟨hAreTexts, rfl⟩
  refine
    ⟨elements, Expression.elements_ok hElements, ?_, ?_⟩
  · cases hBlank :
        (elements.map Value.plain).findIdx? isBlank with
    | some position =>
        rw [hBlank] at hOk
        cases hOk
    | none =>
        rw [List.findIdx?_eq_none_iff] at hBlank
        intro v hMem
        exact
          ⟨v.plain, hAreTexts v hMem,
            hBlank _ (List.mem_map_of_mem hMem)⟩
  · split at hOk
    · cases hOk
    · exact (Except.ok.inj hOk).symm

/- Texts can be targets unless one of them is blank. -/
theorem Targets.render_ofTexts
    (items : List String) :
    (Targets.ofTexts items).render =
      match items.findIdx? isBlank with
      | some position => .error (.blankTarget position)
      | none => .ok (", ".intercalate items) := by
  have hTexts :
      (items.map Value.text).mapM Expression.text =
        .ok items := by
    induction items with
    | nil => rfl
    | cons item rest ih =>
        rw [List.map_cons, List.mapM_cons, ih]
        rfl
  have hElements :
      Expression.elements (.texts items) =
        .ok (items.map Value.text) := rfl
  simp only [render, written, ofTexts, hElements, hTexts,
    bind, Except.bind]
  cases items.findIdx? isBlank <;> rfl

/- So is that of a sort order, with its direction behind. -/
theorem SortOrder.render_ok
    {o : SortOrder}
    {text : String}
    (hOk : o.render = .ok text) :
    ∃ elements,
      o.items.elements? = some elements ∧
        (∀ v ∈ elements, v.IsStated) ∧
        text =
          ", ".intercalate (elements.map Value.plain) ++
            if o.descending.isTrue then " DESC" else "" := by
  rcases exists_of_bind_ok hOk with ⟨items, hItems, hOk⟩
  cases hItems
  rcases exists_of_bind_ok hOk with ⟨elements, hElements, hOk⟩
  rcases exists_of_bind_ok hOk with ⟨texts, hTexts, hOk⟩
  cases hOk
  rcases mapM_ok Value.IsStated Value.plain
      (fun v s hRead => Expression.read_ok hRead)
      elements texts hTexts with
    ⟨hStated, rfl⟩
  exact
    ⟨elements, Expression.elements_ok hElements, hStated,
      rfl⟩

end CypherAssembly

------------------------------------------------------------
-- Content With Expressions
------------------------------------------------------------

namespace CypherAssembly

namespace Content

/- The expressions that content is made of. -/
def expressions : Content → List Value
  | condition c => [c.expression]
  | projection p => [p.expression]
  | targets t => t.items.elements?.getD []
  | sortOrder o => o.items.elements?.getD []
  | _ => []

/- An expression in rendered content is there to be seen. -/
theorem isStated_of_render
    {c : Content}
    {text : String}
    {v : Value}
    (hOk : c.render = .ok text)
    (hMem : v ∈ c.expressions) :
    v.IsStated ∧ IsInside v.plain text := by
  cases c with
  | condition c =>
      rw [List.mem_singleton.mp hMem]
      rcases exists_of_bind_ok hOk with ⟨e, hExpression, hOk⟩
      cases hExpression
      rcases exists_of_bind_ok hOk with ⟨s, hRead, hOk⟩
      rcases Expression.read_ok hRead with ⟨hStated, rfl⟩
      refine ⟨hStated, ?_⟩
      rcases exists_of_bind_ok hOk with ⟨negate, _, hOk⟩
      rcases exists_of_bind_ok hOk with ⟨operator, _, hOk⟩
      have hBody :
          IsInside c.expression.plain
            (if negate.isTrue then
              "NOT " ++ c.expression.plain
            else c.expression.plain) := by
        split
        · exact isInside_append_left _ _
        · exact List.infix_refl _
      split at hOk
      · rcases exists_of_bind_ok hOk with ⟨_, _, hOk⟩
        cases hOk
        exact hBody.trans (isInside_append_left _ _)
      · cases hOk
        exact hBody
  | projection p =>
      rw [List.mem_singleton.mp hMem]
      rcases exists_of_bind_ok hOk with ⟨e, hExpression, hOk⟩
      cases hExpression
      rcases exists_of_bind_ok hOk with ⟨s, hRead, hOk⟩
      rcases Expression.read_ok hRead with ⟨hStated, rfl⟩
      refine ⟨hStated, ?_⟩
      rcases exists_of_bind_ok hOk with ⟨name, _, hOk⟩
      split at hOk
      · rcases exists_of_bind_ok hOk with ⟨_, _, hOk⟩
        cases hOk
        rw [String.append_assoc]
        exact isInside_append_right _ _
      · cases hOk
        exact List.infix_refl _
  | targets t =>
      rcases Targets.render_ok hOk with
        ⟨elements, hElements, hStated, rfl⟩
      rw [expressions, hElements] at hMem
      exact
        ⟨hStated v hMem,
          isInside_intercalate _ (List.mem_map_of_mem hMem)⟩
  | sortOrder o =>
      rcases SortOrder.render_ok hOk with
        ⟨elements, hElements, hStated, rfl⟩
      rw [expressions, hElements] at hMem
      have hInside :
          IsInside v.plain
            (", ".intercalate (elements.map Value.plain)) :=
        isInside_intercalate _ (List.mem_map_of_mem hMem)
      exact
        ⟨hStated v hMem,
          hInside.trans (isInside_append_right _ _)⟩
  | _ => cases hMem

/- Content with expressions is not blank when rendered. -/
theorem isBlank_of_render
    {c : Content}
    {text : String}
    (hSome : c.expressions ≠ [])
    (hOk : c.render = .ok text) :
    isBlank text = false := by
  rcases List.exists_mem_of_ne_nil _ hSome with ⟨v, hMem⟩
  rcases isStated_of_render hOk hMem with ⟨hStated, hInside⟩
  exact isBlank_of_isInside hInside hStated.isBlank_plain

/- Holds for content that is made of expressions. -/
def IsStating : Content → Prop
  | condition _ => True
  | projection _ => True
  | targets _ => True
  | sortOrder _ => True
  | _ => False

/- Such content has expressions, if it is not vacant. -/
theorem expressions_ne_nil
    {c : Content}
    {text : String}
    (hStating : c.IsStating)
    (hFilled : c.isVacant = false)
    (hOk : c.render = .ok text) :
    c.expressions ≠ [] := by
  cases c with
  | condition c => exact List.cons_ne_nil _ _
  | projection p => exact List.cons_ne_nil _ _
  | targets t =>
      rcases Targets.render_ok hOk with
        ⟨elements, hElements, _⟩
      have hTrue : (!t.items.isTrue) = false := hFilled
      rw [expressions, hElements]
      exact Value.elements_ne_nil (by simpa using hTrue) hElements
  | sortOrder o =>
      rcases SortOrder.render_ok hOk with
        ⟨elements, hElements, _⟩
      have hTrue : (!o.items.isTrue) = false := hFilled
      rw [expressions, hElements]
      exact Value.elements_ne_nil (by simpa using hTrue) hElements
  | _ => exact hStating.elim

end Content

end CypherAssembly

------------------------------------------------------------
-- Drawn Content
------------------------------------------------------------

namespace CypherAssembly

/- There are parentheses around a node. -/
theorem Node.isBlank_of_render
    {n : Node}
    {text : String}
    (hOk : n.render = .ok text) :
    isBlank text = false := by
  rcases exists_of_bind_ok hOk with ⟨_, _, hOk⟩
  rcases exists_of_bind_ok hOk with ⟨_, _, hOk⟩
  rcases exists_of_bind_ok hOk with ⟨_, _, hOk⟩
  rcases exists_of_bind_ok hOk with ⟨_, _, hOk⟩
  rcases exists_of_bind_ok hOk with ⟨_, _, hOk⟩
  rcases exists_of_bind_ok hOk with ⟨_, _, hOk⟩
  cases hOk
  have hClosing : isBlank ")" = false := by decide
  rw [isBlank_append, hClosing, Bool.and_false]

/- There is an arrow around a relationship. -/
theorem Relationship.isBlank_of_render
    {r : Relationship}
    {text : String}
    (hOk : r.render = .ok text) :
    isBlank text = false := by
  rcases exists_of_bind_ok hOk with ⟨_, _, hOk⟩
  rcases exists_of_bind_ok hOk with ⟨_, _, hOk⟩
  rcases exists_of_bind_ok hOk with ⟨_, _, hOk⟩
  rcases exists_of_bind_ok hOk with ⟨_, _, hOk⟩
  rcases exists_of_bind_ok hOk with ⟨_, _, hOk⟩
  rcases exists_of_bind_ok hOk with ⟨_, _, hOk⟩
  rcases exists_of_bind_ok hOk with ⟨_, _, hOk⟩
  rcases exists_of_bind_ok hOk with ⟨direction, _, hOk⟩
  have hStroke : isBlank "-" = false := by decide
  have hArrow : isBlank "->" = false := by decide
  cases direction with
  | unknown given =>
      rcases exists_of_bind_ok hOk with ⟨_, _, hOk⟩
      cases hOk
  | _ =>
      cases hOk
      simp [isBlank_append, hStroke, hArrow]

namespace Content

/-
  Holds for nodes, relationships and paths of them.  A value
  may be in the place of each of them.
-/
inductive IsDrawn : Content → Prop where
  | bare (v : Value) : IsDrawn (.bare v)
  | node (n : Node) : IsDrawn (.node n)
  | relationship (r : Relationship) :
      IsDrawn (.relationship r)
  | onlyNode
      (n : Content)
      (hNode : IsDrawn n) :
      IsDrawn (.onlyNode n)
  | partialPath
      (start link : Content)
      (hStart : IsDrawn start)
      (hLink : IsDrawn link) :
      IsDrawn (.partialPath start link)
  | fullPath
      (start link finish : Content)
      (hStart : IsDrawn start)
      (hLink : IsDrawn link)
      (hFinish : IsDrawn finish) :
      IsDrawn (.fullPath start link finish)

/- Holds for patterns with such content in their places. -/
def IsPattern
    (c : Content) : Prop :=
  ∃ single partly fully,
    c = .pattern single partly fully ∧
      single.IsDrawn ∧ partly.IsDrawn ∧ fully.IsDrawn

/- All of it is content on offer. -/
theorem IsDrawn.isOffered
    {c : Content}
    (hDrawn : c.IsDrawn) :
    c.IsOffered := by
  induction hDrawn with
  | bare v => exact .bare v
  | node n => exact .node n
  | relationship r => exact .relationship r
  | onlyNode n _ ih => exact .onlyNode n ih
  | partialPath start link _ _ ihStart ihLink =>
      exact .partialPath start link ihStart ihLink
  | fullPath start link finish _ _ _ ihStart ihLink ihFinish =>
      exact
        .fullPath start link finish ihStart ihLink ihFinish

/- There is something to see in what is drawn. -/
theorem IsDrawn.isBlank_of_render
    {c : Content}
    {text : String}
    (hDrawn : c.IsDrawn)
    (hOk : c.render = .ok text) :
    isBlank text = false := by
  induction hDrawn generalizing text with
  | bare v => cases hOk
  | node n => exact Node.isBlank_of_render hOk
  | relationship r => exact Relationship.isBlank_of_render hOk
  | onlyNode n _ ih => exact ih hOk
  | partialPath start link _ _ _ _ =>
      rcases exists_of_bind_ok hOk with ⟨_, _, hOk⟩
      rcases exists_of_bind_ok hOk with ⟨_, _, hOk⟩
      cases hOk
      have hEnd : isBlank "()" = false := by decide
      rw [isBlank_append, hEnd, Bool.and_false]
  | fullPath start link finish _ _ _ _ _ ihFinish =>
      rcases exists_of_bind_ok hOk with ⟨_, _, hOk⟩
      rcases exists_of_bind_ok hOk with ⟨_, _, hOk⟩
      rcases exists_of_bind_ok hOk with ⟨_, hFinish, hOk⟩
      cases hOk
      rw [isBlank_append, ihFinish hFinish, Bool.and_false]

/- The shape that a pattern prefers is drawn content. -/
theorem IsPattern.of_preferred
    {c shape : Content}
    (hPattern : c.IsPattern)
    (hShape : c.preferred? = some shape) :
    shape.IsDrawn := by
  rcases hPattern with
    ⟨single, partly, fully, rfl, hSingle, hPartly, hFully⟩
  rcases eq_of_preferred hShape with rfl | rfl | rfl
  · exact hSingle
  · exact hPartly
  · exact hFully

end Content

end CypherAssembly
