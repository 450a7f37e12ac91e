import CypherAssembly.Proofs.Clause.Filled
import CypherAssembly.Proofs.Desk.Calls
import CypherAssembly.Proofs.Desk.Frame

/-
  Nodes that are matched in short.

  Key theorems include:
    * `Shorthand.labels_ofText?`
    * `Clause.refusal_ofNode`
    * `Desk.node_call_is_match_iff`

  A node can be matched by naming its label, its variable
  and its properties, or by making a pattern of it first.
  Both ways lead to the same clause.  The pattern is made by
  name, too, and the name of its own argument is the only
  one that a property cannot have on the short way.
-/

------------------------------------------------------------
-- Labels
------------------------------------------------------------

namespace CypherAssembly

/- A label that is missing or empty is no label at all. -/
theorem Shorthand.labels_ofText?
    (label : Option String) :
    Value.list (labels (.ofText? label)) =
      .texts (label.toList.filter (· ≠ "")) := by
  cases label with
  | none => rfl
  | some text =>
      by_cases hEmpty : text = ""
      · simp [hEmpty, labels, Value.ofText?, Value.isTrue,
          Value.texts]
      · simp [hEmpty, labels, Value.ofText?, Value.isTrue,
          Value.texts]

end CypherAssembly

------------------------------------------------------------
-- Nodes
------------------------------------------------------------

namespace CypherAssembly

/- A pattern with a single node can always be matched. -/
theorem Clause.refusal_ofNode
    (kind : PatternClause)
    (n : Node) :
    (patterns kind [.ofNode n]).contribution.refusal =
      none := by
  apply IsOfItsKind.refusal_eq_none
  intro a hMem
  rw [List.mem_singleton.mp hMem]
  exact
    ⟨_, _, _, rfl, .onlyNode _ (.node n), .bare .null,
      .bare .null⟩

namespace Desk

/-
  An open builder can be called for a node by its label, its
  variable and its properties, none of which has the name of
  an argument of the call.  The call does the same as
  matching the pattern of that node, which is never refused,
  if and only if no property has the name of the argument
  that the pattern is made with.  Otherwise it is refused,
  and nothing has changed.
-/
theorem node_call_is_match_iff
    (d : Desk)
    (name : String)
    (label : Option String)
    (var : String)
    (properties : Record Value)
    (hOpen : (d.builder name).isFinished = false)
    (hNames :
      ∀ own ∈ Call.argumentNames,
        properties.get? own = none) :
    let labels := label.toList.filter (· ≠ "")
    let node := Node.ofParts var labels properties
    let plain : Call :=
      .clause (.patterns .matching [.ofNode node])
    let short : Call :=
      .node (some (.ofText? label)) (some (.text var))
        properties
    let asked := fun call : Call => d.ask name call.request
    (asked plain).2.refusal = none ∧
      (asked short = asked plain ↔
        properties.get? "cls" = none) ∧
      (properties.get? "cls" ≠ none →
        asked short = (d, .refused (.clash "cls"))) := by
  intro labels node plain short asked
  have hPlain : (asked plain).2.refusal = none := by
    change (d.ask name (.add (.ok _))).2.refusal = none
    rw [ask_add_of_open d name _ hOpen]
    exact Clause.refusal_ofNode .matching node
  have hShort :
      short.request =
        if (properties.get? "cls").isSome then
          .add (.error (.clash "cls"))
        else plain.request := by
    have hNode :=
      Clause.matchNode_of_named (some (.ofText? label))
        (some (.text var)) properties hNames
    simp only [Option.getD_some,
      Shorthand.labels_ofText?] at hNode
    change Request.add _ = _
    rw [hNode]
    split <;> rfl
  have hRefused :
      properties.get? "cls" ≠ none →
        asked short = (d, .refused (.clash "cls")) := by
    intro hCls
    have hSome := Option.isSome_iff_ne_none.mpr hCls
    change d.ask name short.request = _
    rw [hShort, if_pos hSome]
    rfl
  refine ⟨hPlain, ?_, hRefused⟩
  constructor
  · intro hSame
    by_contra hCls
    rw [← hSame, hRefused hCls] at hPlain
    cases hPlain
  · intro hCls
    change d.ask name short.request = d.ask name plain.request
    rw [hShort, hCls]
    rfl

/-
  An empty label is left out, and a property can be called
  `labels`.  One that is called `cls` is refused.
-/
theorem node_called_without_label :
    let commands : List Command :=
      [.ask "q" (.add (.ok (.limit (.int 3))))]
    let d := fresh.run commands
    let asked := fun properties : Record Value =>
      d.ask "q"
        (Call.node (some (.text "")) (some (.text "p"))
          properties).request
    let named : Record Value :=
      [("labels", .int 2), ("name", .text "Ada")]
    ((asked named).1.builder "q").text =
        "LIMIT 3\nMATCH (p \x7blabels: 2, name: 'Ada'\x7d)\n" ∧
      asked (("cls", .null) :: named) =
        (d, .refused (.clash "cls")) := by
  intro commands d asked named
  rcases node_call_is_match_iff d "q" (some "") "p" named rfl
      (by simp [named, Call.argumentNames, Record.get?]) with
    ⟨_, hSame, _⟩
  rcases node_call_is_match_iff d "q" (some "") "p"
      (("cls", .null) :: named) rfl
      (by simp [named, Call.argumentNames, Record.get?]) with
    ⟨_, _, hRefused⟩
  refine ⟨?_, hRefused ?_⟩
  · rw [show asked named = _ from hSame.mpr rfl]
    decide +kernel
  · rw [Record.get?, if_pos rfl]
    exact Option.some_ne_none _

/-
  A node with a property called `cls` can be matched, but it
  cannot be called for.
-/
theorem property_refused_in_short :
    let properties : Record Value := [("cls", .text "x")]
    let node := Node.ofParts "p" ["Person"] properties
    let plain : Call :=
      .clause (.patterns .matching [.ofNode node])
    let short : Call :=
      .node (some (.text "Person")) (some (.text "p"))
        properties
    let asked := fun call : Call => fresh.ask "q" call.request
    (∀ own ∈ Call.argumentNames,
        properties.get? own = none) ∧
      (asked plain).2.refusal = none ∧
      ((asked plain).1.builder "q").text =
        "MATCH (p:Person \x7bcls: 'x'\x7d)\n" ∧
      (asked short).2.refusal = some (.clash "cls") ∧
      ((asked short).1.builder "q").text = "" := by
  refine ⟨?_, ?_, ?_, ?_, ?_⟩
  · simp [Call.argumentNames, Record.get?]
  · rfl
  · decide +kernel
  · rfl
  · rfl

end Desk

end CypherAssembly
