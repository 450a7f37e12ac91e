import CypherAssembly.Proofs.Pattern.Parts
import CypherAssembly.Proofs.Value.Printed

/-
  The characters of rendered patterns.

  Key theorems include:
    * `NodeParts.render_ok`
    * `LinkParts.render_ok`

  Rendering a node or a relationship either fails or gives
  the characters of its parts.  If it does not fail, all
  names in it are of the right form.
-/

------------------------------------------------------------
-- Lists of Parts
------------------------------------------------------------

namespace CypherAssembly

/- What is checked one by one is all right in the end. -/
theorem mapM_ok
    {E A B : Type}
    {check : A → Except E B}
    (isGood : A → Prop)
    (result : A → B)
    (hEach :
      ∀ a b, check a = .ok b → isGood a ∧ b = result a)
    (given : List A)
    (results : List B)
    (hOk : given.mapM check = .ok results) :
    (∀ a ∈ given, isGood a) ∧
      results = given.map result := by
  induction given generalizing results with
  | nil =>
      cases hOk
      exact ⟨fun _ hMem => absurd hMem List.not_mem_nil, rfl⟩
  | cons a rest ih =>
      rw [List.mapM_cons] at hOk
      rcases exists_of_bind_ok hOk with ⟨b, hFirst, hOk⟩
      rcases exists_of_bind_ok hOk with ⟨bs, hRest, hOk⟩
      cases hOk
      rcases hEach a b hFirst with ⟨hGood, rfl⟩
      rcases ih bs hRest with ⟨hGoodRest, rfl⟩
      exact
        ⟨List.forall_mem_cons.mpr ⟨hGood, hGoodRest⟩, rfl⟩

end CypherAssembly

------------------------------------------------------------
-- Parts
------------------------------------------------------------

namespace CypherAssembly

namespace Part

theorem checkName_ok
    {role : NameRole}
    (name text : String)
    (hOk : checkName role name = .ok text) :
    isName name = true ∧ text = name := by
  unfold checkName at hOk
  split at hOk
  · rename_i hName
    cases hOk
    exact ⟨hName, rfl⟩
  · cases hOk

theorem var_ok
    {role : NameRole}
    {name text : String}
    (hOk : var role (.text name) = .ok text) :
    (name = "" ∨ isName name = true) ∧ text = name := by
  unfold var at hOk
  split at hOk
  · rcases checkName_ok name text hOk with ⟨hName, hSame⟩
    exact ⟨Or.inr hName, hSame⟩
  · rename_i hEmpty
    have hName : name = "" := by
      simpa [Value.isTrue] using hEmpty
    cases hOk
    exact ⟨Or.inl hName, hName.symm⟩

theorem names_ok
    {role : NameRole}
    {separator : String}
    {names : List String}
    {text : String}
    (mark : Char)
    (hMark : separator.toList = [mark])
    (hOk : Part.names role separator (.texts names) = .ok text) :
    (∀ name ∈ names, isName name = true) ∧
      text.toList = namesChars mark names := by
  rw [names_texts] at hOk
  split at hOk
  · rename_i hEmpty
    have hNames : names = [] := by
      simpa using hEmpty
    subst hNames
    cases hOk
    exact ⟨fun _ hMem => absurd hMem List.not_mem_nil, rfl⟩
  · rename_i hSome
    rcases exists_of_bind_ok hOk with
      ⟨checked, hChecked, hOk⟩
    cases hOk
    rcases mapM_ok (fun name => isName name = true) id
        checkName_ok names checked hChecked with
      ⟨hNames, rfl⟩
    have hRow := toList_intercalate_map separator id names
    rw [hMark] at hRow
    refine ⟨hNames, ?_⟩
    rw [String.toList_append, hRow,
      namesChars_of_ne_nil mark names (by simpa using hSome)]
    rfl

theorem property_ok
    (entry : String × Value)
    (text : String)
    (hOk : property entry = .ok text) :
    isName entry.1 = true ∧
      text = entry.1 ++ ": " ++ entry.2.literal := by
  rcases exists_of_bind_ok hOk with ⟨key, hKey, hOk⟩
  rcases checkName_ok entry.1 key hKey with ⟨hName, rfl⟩
  rcases exists_of_bind_ok hOk with ⟨value, hValue, hOk⟩
  rcases Value.inText_ok hValue with ⟨_, rfl⟩
  cases hOk
  exact ⟨hName, rfl⟩

theorem properties_ok
    {entries : Record Value}
    {text : String}
    (hOk : Part.properties (.map entries) = .ok text) :
    (∀ entry ∈ entries, isName entry.1 = true) ∧
      text.toList = propertiesChars entries := by
  unfold Part.properties at hOk
  split at hOk
  · rename_i hTrue
    have hSome : entries ≠ [] := by
      simpa [Value.isTrue] using hTrue
    rcases exists_of_map_ok hOk with
      ⟨written, hWritten, rfl⟩
    rcases mapM_ok _ _ property_ok entries written hWritten
      with ⟨hKeys, rfl⟩
    refine ⟨hKeys, ?_⟩
    have hChars :
        (fun entry : String × Value =>
          (entry.1 ++ ": " ++ entry.2.literal).toList) =
            propertyChars := by
      funext entry
      simp [propertyChars]
    rw [propertiesChars_of_ne_nil entries hSome, between,
      String.toList_append, String.toList_append,
      toList_intercalate_map, hChars, List.append_assoc]
    rfl
  · rename_i hFalse
    have hNone : entries = [] := by
      simpa [Value.isTrue] using hFalse
    subst hNone
    cases hOk
    exact ⟨fun _ hMem => absurd hMem List.not_mem_nil, rfl⟩

end Part

end CypherAssembly

------------------------------------------------------------
-- Nodes and Relationships
------------------------------------------------------------

namespace CypherAssembly

theorem NodeParts.render_ok
    {n : NodeParts}
    {text : String}
    (hOk : n.node.render = .ok text) :
    n.IsWellNamed ∧ text.toList = n.chars := by
  change
    (do
      let var ← Part.var .nodeVariable (.text n.var)
      let labels ← Part.names .nodeLabel ":" (.texts n.labels)
      let properties ← Part.properties (.map n.properties)
      return "(" ++ var ++ labels ++ properties ++ ")") =
        Except.ok text at hOk
  rcases exists_of_bind_ok hOk with ⟨var, hVar, hOk⟩
  rcases exists_of_bind_ok hOk with ⟨labels, hLabels, hOk⟩
  rcases exists_of_bind_ok hOk with
    ⟨properties, hProperties, hOk⟩
  cases hOk
  rcases Part.var_ok hVar with ⟨hVarName, rfl⟩
  rcases Part.names_ok ':' rfl hLabels with
    ⟨hLabelNames, hLabelChars⟩
  rcases Part.properties_ok hProperties with
    ⟨hKeys, hChars⟩
  refine ⟨⟨hVarName, hLabelNames, hKeys⟩, ?_⟩
  simp [NodeParts.chars, hLabelChars, hChars]

namespace LinkParts

/- Bounds are written if there is at least one of them. -/
theorem hops_ok
    {least most : Option Int}
    {text : String}
    (hOk :
      Relationship.hops (Relationship.bound least)
        (Relationship.bound most) = .ok text) :
    text.toList = hopsChars (least, most) := by
  cases least with
  | none =>
      cases most with
      | none =>
          cases hOk
          rfl
      | some n =>
          rcases exists_of_bind_ok hOk with ⟨last, hLast, hOk⟩
          rcases Value.inText_ok hLast with ⟨_, rfl⟩
          cases hOk
          simp [hopsChars, boundChars, Value.plain,
            Value.shown, Relationship.bound]
  | some m =>
      cases most with
      | none =>
          rcases exists_of_bind_ok hOk with
            ⟨first, hFirst, hOk⟩
          rcases Value.inText_ok hFirst with ⟨_, rfl⟩
          cases hOk
          simp [hopsChars, boundChars, Value.plain,
            Value.shown, Relationship.bound]
      | some n =>
          change Relationship.range (.int m) (.int n) = .ok text
            at hOk
          unfold Relationship.range at hOk
          split at hOk
          · cases hOk
          rcases exists_of_bind_ok hOk with
            ⟨first, hFirst, hOk⟩
          rcases Value.inText_ok hFirst with ⟨_, rfl⟩
          rcases exists_of_bind_ok hOk with ⟨last, hLast, hOk⟩
          rcases Value.inText_ok hLast with ⟨_, rfl⟩
          split at hOk
          · cases hOk
          · cases hOk
            simp [hopsChars, boundChars, Value.plain,
              Value.shown]

theorem around_ok
    {d : Direction}
    {body text : String}
    (hOk : d.around body = .ok text) :
    d.isKnown = true ∧
      text.toList = d.front ++ (body.toList ++ d.back) := by
  cases d with
  | unknown given =>
      rcases exists_of_bind_ok hOk with ⟨_, _, hOk⟩
      cases hOk
  | _ =>
      cases hOk
      exact ⟨rfl, by simp [Direction.front, Direction.back]⟩

theorem render_ok
    {l : LinkParts}
    {text : String}
    (hOk : l.relationship.render = .ok text) :
    l.IsWellNamed ∧ text.toList = l.chars := by
  change
    (do
      let var ← Part.var .relationshipVariable (.text l.var)
      let types ←
        Part.names .relationshipType "|" (.texts l.types)
      let length ←
        Relationship.hops (Relationship.bound l.least)
          (Relationship.bound l.most)
      let properties ← Part.properties (.map l.properties)
      l.direction.around
        ("[" ++ var ++ types ++ length ++ properties ++
          "]")) = Except.ok text at hOk
  rcases exists_of_bind_ok hOk with ⟨var, hVar, hOk⟩
  rcases exists_of_bind_ok hOk with ⟨types, hTypes, hOk⟩
  rcases exists_of_bind_ok hOk with ⟨length, hLength, hOk⟩
  rcases exists_of_bind_ok hOk with
    ⟨properties, hProperties, hOk⟩
  rcases Part.var_ok hVar with ⟨hVarName, rfl⟩
  rcases Part.names_ok '|' rfl hTypes with
    ⟨hTypeNames, hTypeChars⟩
  rcases Part.properties_ok hProperties with
    ⟨hKeys, hChars⟩
  rcases around_ok hOk with ⟨hKnown, hArrow⟩
  refine ⟨⟨hVarName, hTypeNames, hKeys, hKnown⟩, ?_⟩
  rw [hArrow]
  simp [chars, bodyChars, fields, hTypeChars,
    hops_ok hLength, hChars]

end LinkParts

end CypherAssembly
