import CypherAssembly.Desk.Command
import CypherAssembly.Draft.Shorthand
import CypherAssembly.Proofs.Steps

/-
  Calls of a builder, in full or in short.

  Key definitions include:
    * `Call`
    * `Call.request`
    * `Call.keyword`
    * `Call.IsUnambiguous`
    * `Call.returnsTexts`

  Key theorems include:
    * `Clause.mapM_returnedItem`
    * `Call.request_eq`
    * `Call.cases_of_refused`

  A call is what somebody writes down.  Most calls are a
  clause already.  Others are short for one, and two of them
  can come to nothing.  The properties of a node are given by
  name, like the label and the variable, and then a name can
  be there twice.  And expressions to return, which can be
  anything, have to be texts.
-/

------------------------------------------------------------
-- Calls
------------------------------------------------------------

namespace CypherAssembly

/- Holds for a text that stands for itself. -/
def Content.isText : Content → Bool
  | bare (.text _) => true
  | _ => false

/- What a builder can be called with. -/
inductive Call where
  | clause (c : Clause)
  | node
      (label var : Option Value)
      (properties : Record Value)
  | path
      (start : Content)
      (type : Value)
      (finish : Content)
      (var least most : Value)
  | names (given : List Content)
  | embed (inner : String)

namespace Call

/- The request that is made by a call. -/
def request : Call → Request
  | clause c => .add (.ok c)
  | node label var properties =>
      .add (Clause.matchNode label var (.map properties))
  | path start type finish var least most =>
      .add (.ok
        (Clause.matchRelated start type finish var least
          most))
  | names given => .add (Clause.returnNames given)
  | embed inner => .embed inner

/- The keyword of the clause that is called for. -/
def keyword : Call → Keyword
  | clause c => c.keyword
  | node _ _ _ => .matching
  | path _ _ _ _ _ _ => .matching
  | names _ => .returning
  | embed _ => .call

/- The names that arguments of a node have themselves. -/
def reserved : List String :=
  ["self", "cls", "label", "variable"]

/- Those of them that are arguments of the call itself. -/
def argumentNames : List String :=
  ["self", "label", "variable"]

/- No property of a node has the name of an argument. -/
def IsUnambiguous : Call → Prop
  | node _ _ properties =>
      ∀ name ∈ reserved, properties.get? name = none
  | _ => True

/- Holds unless what is to be returned is not all texts. -/
def returnsTexts : Call → Bool
  | names given => given.all Content.isText
  | _ => true

end Call

end CypherAssembly

------------------------------------------------------------
-- Nodes
------------------------------------------------------------

namespace CypherAssembly

namespace Clause

/-
  Where no property has the name of an argument, each
  argument is what was given for it, and the properties are
  all there.  The pattern that is made of them has a name of
  its own that no property can have.
-/
theorem matchNode_of_named
    (label var : Option Value)
    (properties : Record Value)
    (hNames :
      ∀ name ∈ Call.argumentNames,
        properties.get? name = none) :
    matchNode label var (.map properties) =
      if (properties.get? "cls").isSome then
        .error (.clash "cls")
      else
        .ok (.patterns .matching
          [.ofNode
            { var := var.getD (.text "n")
              labels :=
                .list (Shorthand.labels (label.getD .null))
              properties := .map properties }]) := by
  have hSelf := hNames "self" (by simp [Call.argumentNames])
  have hLabel := hNames "label" (by simp [Call.argumentNames])
  have hVar :=
    hNames "variable" (by simp [Call.argumentNames])
  have hRest :
      (properties.erase "label").erase "variable" =
        properties := by
    rw [Record.erase_of_get?_none _ _ hLabel,
      Record.erase_of_get?_none _ _ hVar]
  have hArgument :
      ∀ name default given,
        properties.get? name = none →
          Shorthand.argument name default given properties =
            .ok (given.getD default) := by
    intro name default given hNone
    unfold Shorthand.argument
    cases given <;> simp [hNone]
  unfold matchNode
  simp only [Arguments.byName, bind, Except.bind, hSelf,
    Option.isSome_none, Bool.false_eq_true, if_false,
    hArgument _ _ _ hLabel, hArgument _ _ _ hVar, hRest,
    Content.ofArguments, hVar]
  cases properties.get? "cls" <;> rfl

/- A node is matched unless a name is there twice. -/
theorem matchNode_of_unambiguous
    (label var : Option Value)
    (properties : Record Value)
    (hNames :
      ∀ name ∈ Call.reserved, properties.get? name = none) :
    matchNode label var (.map properties) =
      .ok (.patterns .matching
        [.ofNode
          { var := var.getD (.text "n")
            labels :=
              .list (Shorthand.labels (label.getD .null))
            properties := .map properties }]) := by
  have hCls := hNames "cls" (by simp [Call.reserved])
  have hAll : Call.argumentNames ⊆ Call.reserved := by
    simp [Call.argumentNames, Call.reserved]
  rw [matchNode_of_named label var properties]
  · simp [hCls]
  · intro name hMem
    exact hNames name (hAll hMem)

/- If it is not, that is because of such a name. -/
theorem exists_clash_of_matchNode
    (label var : Option Value)
    (properties : Record Value)
    (r : Refusal)
    (hError :
      matchNode label var (.map properties) = .error r) :
    ∃ name, r = .clash name := by
  have hArgument :
      ∀ name default given r,
        Shorthand.argument name default given properties =
            .error r →
          ∃ name, r = .clash name := by
    intro name default given r hClash
    unfold Shorthand.argument at hClash
    split at hClash
    · exact ⟨name, (Except.error.inj hClash).symm⟩
    · cases hClash
    · cases hClash
    · cases hClash
  have hPattern :
      ∀ arguments rest r,
        Content.ofArguments arguments rest = .error r →
          ∃ name, r = .clash name := by
    intro arguments rest r hClash
    unfold Content.ofArguments at hClash
    simp only at hClash
    split at hClash
    · exact ⟨_, (Except.error.inj hClash).symm⟩
    · split at hClash
      · exact ⟨_, (Except.error.inj hClash).symm⟩
      · cases hClash
      · cases hClash
  unfold matchNode at hError
  simp only [Arguments.byName] at hError
  rcases cases_of_bind_error hError with hNone | ⟨_, hOk, hRest⟩
  · cases hNone
  cases hOk
  split at hRest
  · rcases cases_of_bind_error hRest with hSelf | ⟨_, hOk, _⟩
    · exact ⟨_, (Except.error.inj hSelf).symm⟩
    · cases hOk
  rcases cases_of_bind_error hRest with hLabel | ⟨_, _, hRest⟩
  · exact hArgument _ _ _ _ hLabel
  rcases cases_of_bind_error hRest with hVar | ⟨_, _, hRest⟩
  · exact hArgument _ _ _ _ hVar
  rcases cases_of_bind_error hRest with hNode | ⟨_, _, hRest⟩
  · exact hPattern _ _ _ hNode
  · cases hRest

end Clause

end CypherAssembly

------------------------------------------------------------
-- Names
------------------------------------------------------------

namespace CypherAssembly

namespace Clause

/- An expression to return is made of a text alone. -/
theorem returnedItem_of_text
    {c : Content}
    (hText : c.isText = true) :
    ∃ item, returnedItem c = .ok item := by
  cases c with
  | bare v =>
      cases v with
      | text s => exact ⟨_, rfl⟩
      | _ => cases hText
  | _ => cases hText

theorem returnedItem_of_other
    {c : Content}
    (hOther : c.isText = false) :
    returnedItem c = .error notExpression := by
  cases c with
  | bare v =>
      cases v with
      | text s => cases hOther
      | _ => rfl
  | _ => rfl

/- The first of several expressions that is no text counts. -/
theorem mapM_returnedItem
    (given : List Content) :
    (given.all Content.isText = true ∧
        ∃ items, given.mapM returnedItem = .ok items) ∨
      (given.all Content.isText = false ∧
        given.mapM returnedItem = .error notExpression) := by
  induction given with
  | nil => exact Or.inl ⟨rfl, [], rfl⟩
  | cons c rest ih =>
      rw [List.mapM_cons, List.all_cons]
      cases hText : c.isText with
      | false =>
          rw [returnedItem_of_other hText]
          exact Or.inr ⟨rfl, rfl⟩
      | true =>
          rcases returnedItem_of_text hText with ⟨item, hItem⟩
          rw [hItem]
          rcases ih with
            ⟨hAll, items, hItems⟩ | ⟨hNot, hItems⟩
          · rw [hAll, hItems]
            exact Or.inl ⟨rfl, _, rfl⟩
          · rw [hNot, hItems]
            exact Or.inr ⟨rfl, rfl⟩

/- So texts are returned. -/
theorem returnNames_of_texts
    {given : List Content}
    (hTexts : given.all Content.isText = true) :
    ∃ items,
      returnNames given = .ok (.projections .returned items) := by
  rcases mapM_returnedItem given with
    ⟨_, items, hItems⟩ | ⟨hNot, _⟩
  · refine ⟨items, ?_⟩
    rw [returnNames, hItems]
    rfl
  · rw [hTexts] at hNot
    cases hNot

/- Anything else is refused. -/
theorem returnNames_of_others
    {given : List Content}
    (hOther : given.all Content.isText = false) :
    returnNames given = .error notExpression := by
  rcases mapM_returnedItem given with
    ⟨hTexts, _, _⟩ | ⟨_, hItems⟩
  · rw [hOther] at hTexts
    cases hTexts
  · rw [returnNames, hItems]
    rfl

end Clause

end CypherAssembly

------------------------------------------------------------
-- Requests Made by Calls
------------------------------------------------------------

namespace CypherAssembly

namespace Call

/-
  Every unambiguous call asks for an embedding or for a
  clause with the keyword of the call, if what it returns
  are texts.
-/
theorem request_eq
    (call : Call)
    (hUnambiguous : call.IsUnambiguous)
    (hTexts : call.returnsTexts = true) :
    (∃ inner, call = .embed inner) ∨
      ∃ c,
        call.request = .add (.ok c) ∧
          c.keyword = call.keyword := by
  cases call with
  | clause c => exact Or.inr ⟨c, rfl, rfl⟩
  | node label var properties =>
      have hNode :=
        Clause.matchNode_of_unambiguous label var properties
          hUnambiguous
      exact Or.inr ⟨_, congrArg Request.add hNode, rfl⟩
  | path start type finish var least most =>
      exact Or.inr ⟨_, rfl, rfl⟩
  | names given =>
      rcases Clause.returnNames_of_texts hTexts with
        ⟨items, hNames⟩
      exact Or.inr ⟨_, congrArg Request.add hNames, rfl⟩
  | embed inner => exact Or.inl ⟨inner, rfl⟩

/- If not, it is refused before there is a clause. -/
theorem request_of_others
    (call : Call)
    (hOther : call.returnsTexts = false) :
    call.request = .add (.error Clause.notExpression) := by
  cases call with
  | names given =>
      exact
        congrArg Request.add
          (Clause.returnNames_of_others hOther)
  | _ => cases hOther

/-
  What cannot be called for is a name that is there twice, or
  an expression that is no text.
-/
theorem cases_of_refused
    (call : Call)
    (r : Refusal)
    (hRequest : call.request = .add (.error r)) :
    (∃ name, r = .clash name) ∨ r = Clause.notExpression := by
  cases call with
  | clause c => cases hRequest
  | node label var properties =>
      left
      exact
        Clause.exists_clash_of_matchNode label var properties
          r (Request.add.inj hRequest)
  | path start type finish var least most => cases hRequest
  | names given =>
      right
      cases hTexts : given.all Content.isText with
      | true =>
          rcases Clause.returnNames_of_texts hTexts with
            ⟨items, hNames⟩
          have hError := Request.add.inj hRequest
          rw [hNames] at hError
          cases hError
      | false =>
          have hError := Request.add.inj hRequest
          rw [Clause.returnNames_of_others hTexts] at hError
          exact (Except.error.inj hError).symm
  | embed inner => cases hRequest

end Call

end CypherAssembly
