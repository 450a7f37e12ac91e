import Mathlib.Data.List.Forall2
import CypherAssembly.Gathering
import CypherAssembly.Proofs.Pattern.Written

/-
  Patterns can be told from their text.

  Key definitions include:
    * `Content.Draws`

  Key theorems include:
    * `Attempt.inOrder_clean`
    * `resolve_clean`
    * `Content.Draws.chars_of_resolve`
    * `parts_of_resolved_text`

  When no fault is met, the text of patterns is made of the
  characters of what they say, and these can be read from
  left to right.
-/

------------------------------------------------------------
-- Resolving Without Faults
------------------------------------------------------------

namespace CypherAssembly

namespace Attempt

theorem renderOne_clean
    {spot : Checked Spot}
    {c : Content}
    {text : String}
    (hOk : (renderOne spot c).outcome = .ok text)
    (hFaults : (renderOne spot c).faults = []) :
    c.render = .ok text := by
  unfold renderOne at hOk hFaults
  cases spot with
  | ok spot =>
      simp only [ofGathered, Except.ok.injEq] at hOk hFaults
      unfold CypherAssembly.renderOne at hOk hFaults
      cases hRender : c.render with
      | ok rendered => simp_all
      | error fault => simp [hRender] at hFaults
  | error faults =>
      cases hRender : c.render with
      | ok rendered => simp_all
      | error fault =>
          cases fault <;> simp_all [refused]

/- Without faults, every single attempt is without faults. -/
theorem inOrder_clean
    {A B : Type}
    (attempt : Int → A → Attempt B)
    (start : Int)
    (given : List A)
    (results : List B)
    (hOk :
      (inOrder attempt start given).outcome = .ok results)
    (hFaults : (inOrder attempt start given).faults = []) :
    List.Forall₂
      (fun a b =>
        ∃ i,
          (attempt i a).outcome = .ok b ∧
            (attempt i a).faults = [])
      given results := by
  induction given generalizing start results with
  | nil =>
      cases hOk
      exact List.Forall₂.nil
  | cons a rest ih =>
      unfold inOrder at hOk hFaults
      cases hFirst : (attempt start a).outcome with
      | error r => simp [hFirst] at hOk
      | ok b =>
          simp only [hFirst, List.append_eq_nil_iff]
            at hOk hFaults
          rcases exists_of_map_ok hOk with ⟨bs, hRest, rfl⟩
          exact
            List.Forall₂.cons ⟨start, hFirst, hFaults.1⟩
              (ih (start + 1) bs hRest hFaults.2)

end Attempt

/- Without faults, a pattern is the text of its shape. -/
theorem resolve_clean
    {spot : Checked Spot}
    {c : Content}
    {text : String}
    (hOk : (resolve spot c).outcome = .ok text)
    (hFaults : (resolve spot c).faults = []) :
    ∃ shape,
      c.preferred? = some shape ∧ shape.render = .ok text := by
  unfold resolve at hOk hFaults
  unfold Content.preferred? Content.knownPlaces
  cases hPlaces : c.places with
  | error problem =>
      simp [hPlaces, Attempt.refused] at hOk
  | ok places =>
      simp only [hPlaces] at hOk hFaults
      cases hFind : places.find? fun p => p.2.isGiven with
      | none =>
          simp only [hFind] at hOk hFaults
          cases spot with
          | ok spot => simp [unsetPattern] at hFaults
          | error faults =>
              simp [unsetPattern, Attempt.refused] at hOk
      | some place =>
          simp only [hFind] at hOk hFaults
          refine ⟨place.2, ?_, ?_⟩
          · simp [Except.toOption, hFind]
          · exact Attempt.renderOne_clean hOk hFaults

end CypherAssembly

------------------------------------------------------------
-- Decoding
------------------------------------------------------------

namespace CypherAssembly

namespace Content

/-
  Holds for content whose preferred shape says what the
  parts say.
-/
def Draws
    (c : Content) : PatternParts → Prop
  | .single n =>
      c.preferred? = some (.onlyNode (.node n.node))
  | .path start link finish =>
      c.preferred? =
          some
            (.fullPath (.node start.node)
              (.relationship link.relationship)
              (.node finish.node)) ∨
        (finish = .empty ∧
          c.preferred? =
            some
              (.partialPath (.node start.node)
                (.relationship link.relationship)))

/- A path without a known end leads to the empty node. -/
theorem render_partialPath
    (start link : Content) :
    (partialPath start link).render =
      (fullPath start link
        (.node NodeParts.empty.node)).render := by
  rfl

/- A pattern without faults has the text of its parts. -/
theorem Draws.chars_of_resolve
    {c : Content}
    {p : PatternParts}
    {spot : Checked Spot}
    {text : String}
    (hDraws : c.Draws p)
    (hOk : (resolve spot c).outcome = .ok text)
    (hFaults : (resolve spot c).faults = []) :
    p.IsWellNamed ∧ text.toList = p.chars := by
  rcases resolve_clean hOk hFaults with
    ⟨shape, hShape, hRender⟩
  cases p with
  | single n =>
      rw [Draws, hShape] at hDraws
      cases hDraws
      exact NodeParts.render_ok hRender
  | path start link finish =>
      have hFull :
          (fullPath (.node start.node)
            (.relationship link.relationship)
            (.node finish.node)).render = .ok text := by
        rcases hDraws with hFull | ⟨rfl, hPartial⟩
        · rw [hShape] at hFull
          cases hFull
          exact hRender
        · rw [hShape] at hPartial
          cases hPartial
          rw [← render_partialPath]
          exact hRender
      rcases exists_of_bind_ok hFull with ⟨a, hStart, hFull⟩
      rcases exists_of_bind_ok hFull with ⟨r, hLink, hFull⟩
      rcases exists_of_bind_ok hFull with ⟨b, hFinish, hFull⟩
      cases hFull
      rcases NodeParts.render_ok hStart with
        ⟨hStartNames, hStartChars⟩
      rcases LinkParts.render_ok hLink with
        ⟨hLinkNames, hLinkChars⟩
      rcases NodeParts.render_ok hFinish with
        ⟨hFinishNames, hFinishChars⟩
      refine ⟨⟨hStartNames, hLinkNames, hFinishNames⟩, ?_⟩
      simp [PatternParts.chars, hStartChars, hLinkChars,
        hFinishChars]

end Content

/- Patterns without faults have the text of their parts. -/
theorem chars_of_resolveAll
    {clause : Checked (Option String)}
    {given : List Content}
    {parts : List PatternParts}
    {text : String}
    (hDraws : List.Forall₂ Content.Draws given parts)
    (hOk : (resolveAll clause given).outcome = .ok text)
    (hFaults : (resolveAll clause given).faults = []) :
    (∀ p ∈ parts, p.IsWellNamed) ∧
      text.toList = parts.flatMap PatternParts.chars := by
  rcases exists_of_map_ok hOk with ⟨texts, hTexts, rfl⟩
  have hEach :=
    Attempt.inOrder_clean _ 0 given texts hTexts hFaults
  clear hOk hTexts hFaults
  induction hDraws generalizing texts with
  | nil =>
      cases hEach
      exact ⟨fun _ hMem => absurd hMem List.not_mem_nil, rfl⟩
  | cons hFirst _ ih =>
      rcases hEach with _ | ⟨⟨i, hText, hClean⟩, hRest⟩
      rcases hFirst.chars_of_resolve hText hClean with
        ⟨hNames, hChars⟩
      rcases ih _ hRest with ⟨hRestNames, hRestChars⟩
      refine ⟨?_, ?_⟩
      · exact List.forall_mem_cons.mpr ⟨hNames, hRestNames⟩
      · rw [String.join_cons, String.toList_append, hChars,
          hRestChars, List.flatMap_cons]

/-
  Two lists of patterns that have the same text, without any
  faults, say the same, one pattern after the other.
-/
theorem parts_of_resolved_text
    (first second : List Content)
    (parts others : List PatternParts)
    (clause clauseToo : Checked (Option String))
    (text : String)
    (hFirst : List.Forall₂ Content.Draws first parts)
    (hSecond : List.Forall₂ Content.Draws second others)
    (hLegible : ∀ p ∈ parts, p.IsLegible)
    (hLegibleToo : ∀ p ∈ others, p.IsLegible)
    (hText : (resolveAll clause first).outcome = .ok text)
    (hFaults : (resolveAll clause first).faults = [])
    (hTextToo :
      (resolveAll clauseToo second).outcome = .ok text)
    (hFaultsToo :
      (resolveAll clauseToo second).faults = []) :
    first.length = second.length ∧ parts = others := by
  rcases chars_of_resolveAll hFirst hText hFaults with
    ⟨hNames, hChars⟩
  rcases chars_of_resolveAll hSecond hTextToo hFaultsToo with
    ⟨hNamesToo, hCharsToo⟩
  have hGood :
      ∀ p ∈ parts, p.IsWellNamed ∧ p.IsLegible :=
    fun p hMem => ⟨hNames p hMem, hLegible p hMem⟩
  have hGoodToo :
      ∀ p ∈ others, p.IsWellNamed ∧ p.IsLegible :=
    fun p hMem => ⟨hNamesToo p hMem, hLegibleToo p hMem⟩
  have hEq :
      parts.flatMap PatternParts.chars ++ [] =
        others.flatMap PatternParts.chars ++ [] := by
    rw [← hChars, ← hCharsToo]
  rcases PatternParts.isReadable_all parts others [] [] hGood
      hGoodToo (startsIn_nil _) (startsIn_nil _) hEq with
    ⟨rfl, _⟩
  have hLength : first.length = second.length := by
    rw [hFirst.length_eq, hSecond.length_eq]
  exact ⟨hLength, rfl⟩

/- A relationship to a node that is not known. -/
def arrow : LinkParts :=
  { var := "r"
    types := ["X", "Y"]
    properties := [("known", .bool true)]
    direction := .incoming
    least := none
    most := some 4 }

/- A node with a quoted label and values of several kinds. -/
def target : NodeParts :=
  { var := "n"
    labels := ["A", "\x60)-[\x60"]
    properties :=
      [("size", .int (-3)), ("to", .text "$to"),
        ("text", .text "a, b: (c)")] }

/- Two ways of writing a path without a known end. -/
theorem parts_of_arrow_text :
    let known :=
      Content.pattern .nothing .nothing
        (.fullPath (.node target.node)
          (.relationship arrow.relationship) (.node {}))
    let unknown :=
      Content.pattern .nothing
        (.partialPath (.node target.node)
          (.relationship arrow.relationship))
        .nothing
    let text :=
      "(n:A:\x60)-[\x60 \x7bsize: -3, to: $to, " ++
        "text: 'a, b: (c)'\x7d)" ++
        "<-[r:X|Y*..4 \x7bknown: true\x7d]-()"
    let parts := PatternParts.path target arrow .empty
    (resolveAll (.ok none) [known]).outcome = .ok text ∧
      (resolveAll (.ok none) [unknown]).outcome = .ok text ∧
        [known].length = [unknown].length ∧
          [parts] = [parts] := by
  intro known unknown text parts
  have hText :
      (resolveAll (.ok none) [known]).outcome = .ok text := by
    rfl
  have hTextToo :
      (resolveAll (.ok none) [unknown]).outcome = .ok text := by
    rfl
  have hTarget : target.IsLegible := by
    unfold NodeParts.IsLegible
    decide
  have hArrow : arrow.IsLegible := by
    unfold LinkParts.IsLegible
    decide
  have hEmpty : NodeParts.empty.IsLegible := by
    unfold NodeParts.IsLegible
    decide
  have hLegible : ∀ p ∈ [parts], p.IsLegible := by
    intro p hMem
    rw [List.mem_singleton.mp hMem]
    exact ⟨hTarget, hArrow, hEmpty⟩
  have hSame :=
    parts_of_resolved_text [known] [unknown] [parts] [parts]
      (.ok none) (.ok none) text
      (.cons (Or.inl rfl) .nil)
      (.cons (Or.inr ⟨rfl, rfl⟩) .nil)
      hLegible hLegible hText rfl hTextToo rfl
  exact ⟨hText, hTextToo, hSame⟩

end CypherAssembly
