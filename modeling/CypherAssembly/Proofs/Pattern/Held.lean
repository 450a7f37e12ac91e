import CypherAssembly.Proofs.Clause.Contributed
import CypherAssembly.Proofs.Text.Inside

/-
  Texts among the properties of patterns.

  Key definitions include:
    * `Value.HasText`
    * `Content.Holds`
    * `Content.Carries`

  Key theorems include:
    * `Content.Holds.isInside_render`
    * `Clause.isInside_contribution`

  A text that is the value of a property stands in the text
  of the pattern, between apostrophes.  It does not matter
  in which node or relationship of the pattern it is, as
  long as all of the pattern can be rendered.
-/

------------------------------------------------------------
-- Literals
------------------------------------------------------------

namespace CypherAssembly

/- A text between apostrophes. -/
def quoted
    (text : String) : String :=
  "'" ++ text ++ "'"

/- The second apostrophe is in the last line. -/
theorem isUnended_quoted
    (text : String) :
    IsUnended (quoted text) := by
  apply isUnended_append
  exact ⟨'\'', rfl, by decide⟩

/- A text that is no parameter is quoted in a query. -/
theorem literal_of_not_parameter
    {text : String}
    (hText : Value.isParameter text = false) :
    (Value.text text).literal = quoted text := by
  simp [Value.literal, hText, quoted]

namespace Value

/- Some property has the text for its value. -/
inductive HasText
    (text : String) : Value → Prop where
  | named
      (entries : Record Value)
      (name : String)
      (hMem : (name, .text text) ∈ entries) :
      HasText text (.map entries)
  | listed
      (entries : List (Value × Value))
      (name : Value)
      (hMem : (name, .text text) ∈ entries) :
      HasText text (.table entries)

end Value

end CypherAssembly

------------------------------------------------------------
-- Properties
------------------------------------------------------------

namespace CypherAssembly

/- Where all of a list succeeds, each member has. -/
theorem exists_of_mapM_ok
    {E A B : Type}
    {f : A → Except E B}
    {given : List A}
    {results : List B}
    {a : A}
    (hOk : given.mapM f = .ok results)
    (hMem : a ∈ given) :
    ∃ b ∈ results, f a = .ok b := by
  induction given generalizing results with
  | nil => cases hMem
  | cons first rest ih =>
      rw [List.mapM_cons] at hOk
      rcases exists_of_bind_ok hOk with ⟨b, hFirst, hOk⟩
      rcases exists_of_bind_ok hOk with ⟨bs, hRest, hOk⟩
      cases hOk
      rcases List.mem_cons.mp hMem with rfl | hLater
      · exact ⟨b, List.mem_cons_self, hFirst⟩
      · rcases ih hRest hLater with ⟨c, hIn, hEq⟩
        exact ⟨c, List.mem_cons_of_mem b hIn, hEq⟩

namespace Part

/- What is written behind a name is inside of all of it. -/
theorem isInside_between
    {E A : Type}
    {write : A → Except E String}
    {entries : List A}
    {rendered : String}
    {entry : A}
    {part : String}
    (hOk : (entries.mapM write).map between = .ok rendered)
    (hMem : entry ∈ entries)
    (hEach :
      ∀ text, write entry = .ok text → IsInside part text) :
    IsInside part rendered := by
  rcases exists_of_map_ok hOk with ⟨texts, hTexts, rfl⟩
  rcases exists_of_mapM_ok hTexts hMem with
    ⟨text, hIn, hText⟩
  have hRow :
      IsInside text (", ".intercalate texts) :=
    isInside_intercalate ", " hIn
  have hAll : IsInside text (between texts) :=
    hRow.trans (isInside_around _ _ _)
  exact (hEach text hText).trans hAll

/- A value is written behind its name. -/
theorem isInside_entry
    {E : Type}
    {name : Except E String}
    {v : Value}
    {written : String}
    (hOk :
      (do
        let key ← name
        return key ++ ": " ++ v.literal) = .ok written) :
    IsInside v.literal written := by
  rcases exists_of_bind_ok hOk with ⟨key, _, hEq⟩
  cases hEq
  exact isInside_append_left _ v.literal

/- A text among the properties is quoted among them. -/
theorem isInside_properties
    {text rendered : String}
    {given : Value}
    (hHas : given.HasText text)
    (hText : Value.isParameter text = false)
    (hOk : properties given = .ok rendered) :
    IsInside (quoted text) rendered := by
  rw [← literal_of_not_parameter hText]
  unfold properties at hOk
  cases hHas with
  | named entries name hMem =>
      have hSome : (Value.map entries).isTrue = true := by
        simp [Value.isTrue, List.ne_nil_of_mem hMem]
      rw [if_pos hSome] at hOk
      apply isInside_between hOk hMem
      intro written hWritten
      exact isInside_entry hWritten
  | listed entries name hMem =>
      have hSome : (Value.table entries).isTrue = true := by
        simp [Value.isTrue, List.ne_nil_of_mem hMem]
      rw [if_pos hSome] at hOk
      apply isInside_between hOk hMem
      intro written hWritten
      exact isInside_entry hWritten

end Part

end CypherAssembly

------------------------------------------------------------
-- Nodes and Relationships
------------------------------------------------------------

namespace CypherAssembly

/- The properties of a node are inside of it. -/
theorem Node.isInside_written
    {var labels properties : Except Fault Value}
    {given : Value}
    {text rendered : String}
    (hProperties : properties = .ok given)
    (hHas : given.HasText text)
    (hText : Value.isParameter text = false)
    (hOk : written var labels properties = .ok rendered) :
    IsInside (quoted text) rendered := by
  rcases exists_of_bind_ok hOk with ⟨_, _, hOk⟩
  rcases exists_of_bind_ok hOk with ⟨_, _, hOk⟩
  rcases exists_of_bind_ok hOk with ⟨_, _, hOk⟩
  rcases exists_of_bind_ok hOk with ⟨_, _, hOk⟩
  rcases exists_of_bind_ok hOk with ⟨_, hGiven, hOk⟩
  cases hProperties.symm.trans hGiven
  rcases exists_of_bind_ok hOk with ⟨_, hWritten, hOk⟩
  cases hOk
  have hInside :=
    Part.isInside_properties hHas hText hWritten
  exact hInside.trans (isInside_around _ _ _)

/- The arrow is put around what is inside of it. -/
theorem Direction.isInside_around
    {d : Direction}
    {body text : String}
    (hOk : d.around body = .ok text) :
    IsInside body text := by
  cases d with
  | unknown given =>
      rcases exists_of_bind_ok hOk with ⟨_, _, hOk⟩
      cases hOk
  | _ =>
      cases hOk
      exact CypherAssembly.isInside_around _ body _

/- The properties of a relationship are inside of it. -/
theorem Relationship.isInside_written
    {var types properties : Except Fault Value}
    {length : Except Fault String}
    {direction : Except Fault Direction}
    {given : Value}
    {text rendered : String}
    (hProperties : properties = .ok given)
    (hHas : given.HasText text)
    (hText : Value.isParameter text = false)
    (hOk :
      written var types length properties direction =
        .ok rendered) :
    IsInside (quoted text) rendered := by
  rcases exists_of_bind_ok hOk with ⟨_, _, hOk⟩
  rcases exists_of_bind_ok hOk with ⟨_, _, hOk⟩
  rcases exists_of_bind_ok hOk with ⟨_, _, hOk⟩
  rcases exists_of_bind_ok hOk with ⟨_, _, hOk⟩
  rcases exists_of_bind_ok hOk with ⟨_, _, hOk⟩
  rcases exists_of_bind_ok hOk with ⟨_, hGiven, hOk⟩
  cases hProperties.symm.trans hGiven
  rcases exists_of_bind_ok hOk with ⟨_, hWritten, hOk⟩
  rcases exists_of_bind_ok hOk with ⟨d, _, hOk⟩
  have hInside :=
    Part.isInside_properties hHas hText hWritten
  have hArrow := Direction.isInside_around hOk
  exact (hInside.trans (isInside_around _ _ _)).trans hArrow

end CypherAssembly

------------------------------------------------------------
-- Shapes of Patterns
------------------------------------------------------------

namespace CypherAssembly

/- A field that is there is found under its name. -/
theorem Refilled.field_of_get?
    {r : Refilled}
    {name : String}
    {v : Value}
    (hThere : r.fields.get? name = some v) :
    r.field name = .ok v := by
  have hFound : r.find? name = .ok (some v) := by
    rw [find?, hThere]
  rw [field, need, hFound]
  rfl

namespace Content

/- Some node or relationship has the text in a property. -/
inductive Holds
    (text : String) : Content → Prop where
  | node
      (n : Node)
      (hHas : n.properties.HasText text) :
      Holds text (.node n)
  | relationship
      (r : Relationship)
      (hHas : r.properties.HasText text) :
      Holds text (.relationship r)
  | onlyNode
      (n : Content)
      (hNode : Holds text n) :
      Holds text (.onlyNode n)
  | partialStart
      (start link : Content)
      (hStart : Holds text start) :
      Holds text (.partialPath start link)
  | partialLink
      (start link : Content)
      (hLink : Holds text link) :
      Holds text (.partialPath start link)
  | fullStart
      (start link finish : Content)
      (hStart : Holds text start) :
      Holds text (.fullPath start link finish)
  | fullLink
      (start link finish : Content)
      (hLink : Holds text link) :
      Holds text (.fullPath start link finish)
  | fullFinish
      (start link finish : Content)
      (hFinish : Holds text finish) :
      Holds text (.fullPath start link finish)
  | marked
      (c : Content)
      (marks : Record Value)
      (hContent : Holds text c) :
      Holds text (.marked c marks)
  | refilled
      (r : Refilled)
      (v : Value)
      (hKind : r.kind = .node ∨ r.kind = .relationship)
      (hThere : r.fields.get? "properties" = some v)
      (hHas : v.HasText text) :
      Holds text (.refilled r)

/- The preferred shape of a pattern has the text in it. -/
def Carries
    (text : String)
    (c : Content) : Prop :=
  ∃ shape, c.preferred? = some shape ∧ shape.Holds text

/- Replaced properties are written like any others. -/
theorem isInside_refilled
    {r : Refilled}
    {v : Value}
    {text rendered : String}
    (hKind : r.kind = .node ∨ r.kind = .relationship)
    (hThere : r.fields.get? "properties" = some v)
    (hHas : v.HasText text)
    (hText : Value.isParameter text = false)
    (hOk : r.render = .ok rendered) :
    IsInside (quoted text) rendered := by
  have hField := Refilled.field_of_get? hThere
  unfold Refilled.render at hOk
  split at hOk
  · cases hOk
  · unfold Refilled.rendered at hOk
    rcases hKind with hNode | hRelationship
    · rw [hNode] at hOk
      exact Node.isInside_written hField hHas hText hOk
    · rw [hRelationship] at hOk
      exact
        Relationship.isInside_written hField hHas hText hOk

/- What can be rendered shows the texts that it holds. -/
theorem Holds.isInside_render
    {text rendered : String}
    {c : Content}
    (hHolds : c.Holds text)
    (hText : Value.isParameter text = false)
    (hOk : c.render = .ok rendered) :
    IsInside (quoted text) rendered := by
  induction hHolds generalizing rendered with
  | node n hHas =>
      exact Node.isInside_written rfl hHas hText hOk
  | relationship r hHas =>
      exact Relationship.isInside_written rfl hHas hText hOk
  | onlyNode n hNode ih => exact ih hOk
  | partialStart start link hStart ih =>
      rcases exists_of_bind_ok hOk with ⟨a, hFirst, hOk⟩
      rcases exists_of_bind_ok hOk with ⟨r, _, hOk⟩
      cases hOk
      rw [String.append_assoc]
      exact (ih hFirst).trans (isInside_append_right a _)
  | partialLink start link hLink ih =>
      rcases exists_of_bind_ok hOk with ⟨a, _, hOk⟩
      rcases exists_of_bind_ok hOk with ⟨r, hSecond, hOk⟩
      cases hOk
      exact (ih hSecond).trans (isInside_around a r _)
  | fullStart start link finish hStart ih =>
      rcases exists_of_bind_ok hOk with ⟨a, hFirst, hOk⟩
      rcases exists_of_bind_ok hOk with ⟨r, _, hOk⟩
      rcases exists_of_bind_ok hOk with ⟨b, _, hOk⟩
      cases hOk
      rw [String.append_assoc]
      exact (ih hFirst).trans (isInside_append_right a _)
  | fullLink start link finish hLink ih =>
      rcases exists_of_bind_ok hOk with ⟨a, _, hOk⟩
      rcases exists_of_bind_ok hOk with ⟨r, hSecond, hOk⟩
      rcases exists_of_bind_ok hOk with ⟨b, _, hOk⟩
      cases hOk
      exact (ih hSecond).trans (isInside_around a r b)
  | fullFinish start link finish hFinish ih =>
      rcases exists_of_bind_ok hOk with ⟨a, _, hOk⟩
      rcases exists_of_bind_ok hOk with ⟨r, _, hOk⟩
      rcases exists_of_bind_ok hOk with ⟨b, hThird, hOk⟩
      cases hOk
      exact (ih hThird).trans (isInside_append_left _ b)
  | marked c marks hContent ih =>
      simp only [render] at hOk
      split at hOk
      · cases hOk
      · exact ih hOk
  | refilled r v hKind hThere hHas =>
      exact
        isInside_refilled hKind hThere hHas hText hOk

end Content

end CypherAssembly

------------------------------------------------------------
-- Clauses of Patterns
------------------------------------------------------------

namespace CypherAssembly

namespace Clause

/- Without faults, the pattern can be rendered. -/
theorem render_of_no_faults
    {kind : PatternClause}
    {given : List Content}
    {c shape : Content}
    (hClean : (patterns kind given).faults = [])
    (hMem : c ∈ given)
    (hShape : c.preferred? = some shape) :
    ∃ rendered, shape.render = .ok rendered := by
  rcases exists_render_of_no_faults hClean hMem with
    ⟨other, rendered, hOther, hRendered⟩
  cases hOther.symm.trans hShape
  exact ⟨rendered, hRendered⟩

/-
  A clause of patterns without faults shows every text that
  one of the patterns carries.
-/
theorem isInside_contribution
    {kind : PatternClause}
    {given : List Content}
    {c : Content}
    {text : String}
    (hAccepted :
      (patterns kind given).contribution.refusal = none)
    (hClean : (patterns kind given).contribution.faults = [])
    (hMem : c ∈ given)
    (hCarries : c.Carries text)
    (hText : Value.isParameter text = false) :
    IsInside (quoted text)
      (patterns kind given).contribution.text := by
  rcases hCarries with ⟨shape, hShape, hHolds⟩
  rw [contribution_faults _ hAccepted] at hClean
  rcases render_of_no_faults hClean hMem hShape with
    ⟨rendered, hRendered⟩
  have hPattern : c.patternText = rendered := by
    simp [Content.patternText, hShape, Content.textOrEmpty,
      hRendered]
  have hSome : (patterns kind given).isRejected = false := by
    simp [isRejected, List.ne_nil_of_mem hMem]
  have hAll :
      IsInside rendered
        (String.join (given.map Content.patternText)) := by
    apply isInside_join
    rw [← hPattern]
    exact List.mem_map_of_mem hMem
  have hInside := hHolds.isInside_render hText hRendered
  rw [contribution_text _ hAccepted, fragment, hSome]
  exact (hInside.trans hAll).trans (isInside_around _ _ _)

end Clause

end CypherAssembly
