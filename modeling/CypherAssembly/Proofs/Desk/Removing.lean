import CypherAssembly.Proofs.Desk.Filled

/-
  Builders and the targets of removal.

  Key theorems include:
    * `Clause.faults_of_rendered`
    * `Desk.builder_ask_of_rendered`
    * `Desk.removal_is_like_deletion_iff`

  The same targets can be deleted or removed.  A deletion
  takes their text as it is, while the line of a removal is
  trimmed.  There is no separator behind the last target,
  but the target itself may end like one, and then this is
  what is trimmed off.
-/

------------------------------------------------------------
-- Clauses of One Argument
------------------------------------------------------------

namespace CypherAssembly

/- An argument that can be rendered makes no fault. -/
theorem Clause.faults_of_rendered
    {c : Clause}
    {argument shape : Content}
    {text : String}
    (hFilled : c.isRejected = false)
    (hSingle : c.arguments = [argument])
    (hShape : c.rendered? argument = some shape)
    (hOk : shape.render = .ok text) :
    c.faults = [] := by
  rw [faults, hFilled, if_neg (by simp),
    argumentFaults_of_single c argument hSingle,
    argumentFault?_eq, hShape]
  simp [Content.faultAt?, hOk]

namespace Desk

/- An open builder takes in the line of such a clause. -/
theorem builder_ask_of_rendered
    (d : Desk)
    (name : String)
    {c : Clause}
    {argument shape : Content}
    {text : String}
    (hOpen : (d.builder name).isFinished = false)
    (hOwn : c.IsOfItsKind)
    (hFilled : c.isRejected = false)
    (hSingle : c.arguments = [argument])
    (hShape : c.rendered? argument = some shape)
    (hOk : shape.render = .ok text) :
    (d.ask name (.add (.ok c))).2.refusal = none ∧
      (d.ask name (.add (.ok c))).1.builder name =
        { d.builder name with
          text := (d.builder name).text ++ c.line
          clauses :=
            (d.builder name).clauses ++ c.keywords } := by
  constructor
  · rw [ask_add_of_open d name c hOpen]
    exact hOwn.refusal_eq_none
  · have hClean :=
      Clause.faults_of_rendered hFilled hSingle hShape hOk
    rw [builder_ask_of_own d name hOwn hOpen, hClean,
      Clause.fragment, hFilled]
    simp

end Desk

end CypherAssembly

------------------------------------------------------------
-- Targets
------------------------------------------------------------

namespace CypherAssembly

namespace Desk

/-
  An open builder takes in targets that are not blank, be
  they deleted or removed, with one line and no fault.  The
  line of a deletion has their text as it is.  So has the
  line of a removal, if and only if the last target does not
  end like a separator.  Otherwise this end is trimmed off.
-/
theorem removal_is_like_deletion_iff
    (d : Desk)
    (name : String)
    (items : List String)
    (hOpen : (d.builder name).isFinished = false)
    (hSome : items ≠ [])
    (hSeen : ∀ item ∈ items, isBlank item = false) :
    let target : Content := .targets (.ofTexts items)
    let operand := ", ".intercalate items
    let last := items.getLast hSome
    let b := d.builder name
    let asked := fun c : Clause => d.ask name (.add (.ok c))
    let next := fun c : Clause => (asked c).1.builder name
    let taken := fun (k : Keyword) (line : String) =>
      { b with
        text := b.text ++ line
        clauses := b.clauses ++ [k] }
    target.render = .ok operand ∧
      (∀ c ∈ [.remove target, .delete false target,
          .delete true target],
        (asked c).2.refusal = none) ∧
      next (.delete false target) =
        taken .delete ("DELETE " ++ operand ++ "\n") ∧
      next (.delete true target) =
        taken .detachDelete
          ("DETACH DELETE " ++ operand ++ "\n") ∧
      (next (.remove target) =
          taken .remove ("REMOVE " ++ operand ++ "\n") ↔
        ¬ ", ".toList <:+ last.toList) ∧
      ∀ kept,
        operand = kept ++ ", " →
          next (.remove target) =
            taken .remove ("REMOVE " ++ kept ++ "\n") := by
  intro target operand last b asked next taken
  have hRender : target.render = .ok operand := by
    have hNone : items.findIdx? isBlank = none :=
      List.findIdx?_eq_none_iff.mpr hSeen
    change (Targets.ofTexts items).render = _
    rw [Targets.render_ofTexts, hNone]
  have hText : target.textOrEmpty = operand :=
    Content.textOrEmpty_of_render hRender
  have hGiven : target.isVacant = false := by
    change (!(Value.texts items).isTrue) = false
    simp [Value.texts, Value.isTrue, hSome]
  have hOwn : target = .nothing ∨ ∃ t, target = .targets t :=
    Or.inr ⟨_, rfl⟩
  have hDeleted := fun detach =>
    builder_ask_of_rendered d name hOpen
      (c := .delete detach target) hOwn hGiven rfl rfl hRender
  have hRemoved :=
    builder_ask_of_rendered d name hOpen
      (c := .remove target) hOwn hGiven rfl rfl hRender
  have hLine :
      next (.remove target) =
        taken .remove
          ("REMOVE " ++ trimSuffix ", " operand ++ "\n") := by
    rw [← hText]
    exact hRemoved.2
  refine ⟨hRender, ?_, ?_, ?_, ?_, ?_⟩
  · simp only [List.forall_mem_cons]
    refine ⟨hRemoved.1, (hDeleted false).1, (hDeleted true).1, ?_⟩
    simp
  · rw [← hText]
    exact (hDeleted false).2
  · rw [← hText]
    exact (hDeleted true).2
  · have hEnds :=
      suffix_intercalate_iff items hSome
        (hSeen _ (List.getLast_mem hSome))
    rw [hLine, ← hEnds,
      ← trimSuffix_eq_self_iff operand (by decide)]
    simp [taken]
  · intro kept hKept
    rw [hLine, hKept, trimSuffix_append]

/-
  A separator at the end of the first target stays where it
  is.  At the end of the last one it is missing from the
  removal alone.
-/
theorem removal_of_separated_targets :
    let commands : List Command :=
      [.ask "q" (.add (.ok (.limit (.int 3))))]
    let d := fresh.run commands
    let text := fun c : Clause =>
      ((d.ask "q" (.add (.ok c))).1.builder "q").text
    let front : Content :=
      .targets (.ofTexts ["n.age, ", "n:Old"])
    let back : Content :=
      .targets (.ofTexts ["n:Old", "n.age, "])
    text (.remove front) =
        "LIMIT 3\nREMOVE n.age, , n:Old\n" ∧
      text (.remove back) =
        "LIMIT 3\nREMOVE n:Old, n.age\n" ∧
      text (.delete true back) =
        "LIMIT 3\nDETACH DELETE n:Old, n.age, \n" := by
  intro commands d text front back
  rcases removal_is_like_deletion_iff d "q"
      ["n.age, ", "n:Old"] rfl (by simp) (by decide) with
    ⟨_, _, _, _, hSame, _⟩
  rcases removal_is_like_deletion_iff d "q"
      ["n:Old", "n.age, "] rfl (by simp) (by decide) with
    ⟨_, _, _, hDeleted, _, hTrimmed⟩
  refine ⟨?_, ?_, ?_⟩
  · exact congrArg Builder.text (hSame.mpr (by decide))
  · exact congrArg Builder.text (hTrimmed "n:Old, n.age" rfl)
  · exact congrArg Builder.text hDeleted

/-
  The separator at the end of a single target is missing
  from its removal, but not from its deletion.
-/
theorem removal_trims_target :
    let target : Targets := .ofTexts ["n.age, "]
    let text := fun c : Clause =>
      ((fresh.ask "q" (.add (.ok c))).1.builder "q").text
    isBlank "n.age, " = false ∧
      target.render = .ok "n.age, " ∧
      text (.delete false (.targets target)) =
        "DELETE n.age, \n" ∧
      text (.remove (.targets target)) = "REMOVE n.age\n" ∧
      text (.remove (.targets target)) ≠
        "REMOVE n.age, \n" := by
  intro target text
  have hRemoved :
      text (.remove (.targets target)) =
        "REMOVE n.age\n" := by
    decide +kernel
  refine ⟨?_, ?_, ?_, hRemoved, ?_⟩
  · decide
  · rfl
  · decide +kernel
  · rw [hRemoved]
    decide

end Desk

end CypherAssembly
