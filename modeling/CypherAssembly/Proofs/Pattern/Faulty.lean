import CypherAssembly.Proofs.Clause.Broken
import CypherAssembly.Proofs.Pattern.Decoding

/-
  Faulty patterns.

  Key definitions include:
    * `NodeParts.faults`
    * `LinkParts.faults`
    * `PatternParts.faults`
    * `NodeParts.IsSound`
    * `LinkParts.IsSound`
    * `PatternParts.IsSound`
    * `PatternParts.HasShape`
    * `IsWholeOrFirst`
    * `Content.shapeKind`

  Key theorems include:
    * `NodeParts.isWholeOrFirst_render`
    * `LinkParts.isWholeOrFirst_render`
    * `PatternParts.isWholeOrFirst_render`
    * `patterns_are_whole_or_left_out`

  All faults of a pattern are listed here in the order in
  which they stand in it, without asking when they are
  looked for.  Rendering reports the first of them.  If there
  are none, the whole text is there, and in no other case is
  there any text at all.  A number that is too long to be
  written is a fault like any other, though it is reported as
  a problem from outside.
-/

------------------------------------------------------------
-- Faults of Parts
------------------------------------------------------------

namespace CypherAssembly

/- The faults of names that do not pass the check. -/
def NameRole.faults
    (role : NameRole)
    (names : List String) : List Fault :=
  (names.filter fun name => !isName name).map
    (.badName role)

/- The name in a variable, unless it is empty. -/
def namesOfVar
    (var : String) : List String :=
  if var = "" then [] else [var]

/- The faults of properties, those of a key first. -/
def propertyFaults
    (entries : Record Value) : List Fault :=
  entries.flatMap fun entry =>
    NameRole.propertyKey.faults [entry.1] ++ entry.2.faults

/-
  The fault of a direction that no arrow is written for.  It
  can only be reported if the direction can be shown.
-/
def Direction.faults : Direction → List Fault
  | unknown given => given.faults ++ [.unknownDirection given]
  | _ => []

/- The fault of bounds that are the wrong way round. -/
def crossedBounds : Option Int → Option Int → List Fault
  | some least, some most =>
      if most < least then
        [.crossedHops (.int least) (.int most)]
      else []
  | _, _ => []

/-
  The faults of bounds.  Bounds that are the wrong way round
  have to be written as well, to report it.
-/
def boundFaults
    (least most : Option Int) : List Fault :=
  (Relationship.bound least).faults ++
    ((Relationship.bound most).faults ++
      crossedBounds least most)

/- All faults of a node, in order. -/
def NodeParts.faults
    (n : NodeParts) : List Fault :=
  NameRole.nodeVariable.faults (namesOfVar n.var) ++
    (NameRole.nodeLabel.faults n.labels ++
      propertyFaults n.properties)

/- All faults of a relationship, the direction last. -/
def LinkParts.faults
    (l : LinkParts) : List Fault :=
  NameRole.relationshipVariable.faults (namesOfVar l.var) ++
    (NameRole.relationshipType.faults l.types ++
      (boundFaults l.least l.most ++
        (propertyFaults l.properties ++ l.direction.faults)))

/- All faults of a pattern, from its start to its end. -/
def PatternParts.faults : PatternParts → List Fault
  | single node => node.faults
  | path start link finish =>
      start.faults ++ (link.faults ++ finish.faults)

/- Names have no faults if all of them pass the check. -/
theorem NameRole.faults_eq_nil_iff
    (role : NameRole)
    (names : List String) :
    role.faults names = [] ↔
      ∀ name ∈ names, isName name = true := by
  simp [faults, List.filter_eq_nil_iff]

/- Faults can be collected name by name. -/
theorem NameRole.flatMap_faults
    {A : Type}
    (role : NameRole)
    (name : A → String)
    (given : List A) :
    (given.flatMap fun a => role.faults [name a]) =
      role.faults (given.map name) := by
  induction given with
  | nil => rfl
  | cons a rest ih =>
      rw [List.flatMap_cons, ih, List.map_cons, faults,
        faults, faults, ← List.map_append,
        ← List.filter_append, List.singleton_append]

end CypherAssembly

------------------------------------------------------------
-- Parts That Stop
------------------------------------------------------------

namespace CypherAssembly

namespace Part

theorem stops_checkName
    (role : NameRole)
    (name : String) :
    StopsAtFirst (role.faults [name])
      (checkName role name) := by
  unfold checkName NameRole.faults
  cases hName : isName name with
  | true => simpa [hName] using StopsAtFirst.ok name
  | false =>
      simpa [hName] using
        StopsAtFirst.error (Fault.badName role name)

theorem stops_var
    (role : NameRole)
    (var : String) :
    StopsAtFirst (role.faults (namesOfVar var))
      (Part.var role (.text var)) := by
  unfold Part.var namesOfVar
  by_cases hEmpty : var = ""
  · subst hEmpty
    exact StopsAtFirst.ok ""
  · have hTrue : (Value.text var).isTrue = true := by
      simpa [Value.isTrue] using hEmpty
    rw [if_neg hEmpty, if_pos hTrue]
    exact stops_checkName role var

theorem stops_names
    (role : NameRole)
    (separator : String)
    (given : List String) :
    StopsAtFirst (role.faults given)
      (Part.names role separator (.texts given)) := by
  rw [names_texts]
  split
  · rename_i hEmpty
    rw [List.isEmpty_iff.mp hEmpty]
    exact StopsAtFirst.ok ""
  · have hAll :=
      StopsAtFirst.mapM (stops_checkName role) given
    rw [role.flatMap_faults fun name => name,
      List.map_id'] at hAll
    rw [← List.append_nil (role.faults given)]
    apply hAll.bind
    intro checked _
    exact StopsAtFirst.ok _

theorem stops_property
    (entry : String × Value) :
    StopsAtFirst
      (NameRole.propertyKey.faults [entry.1] ++
        entry.2.faults)
      (property entry) := by
  apply (stops_checkName .propertyKey entry.1).bind
  intro key _
  rw [← List.append_nil entry.2.faults]
  apply (Value.stops_inText Value.literal entry.2).bind
  intro value _
  exact StopsAtFirst.ok _

theorem stops_properties
    (entries : Record Value) :
    StopsAtFirst (propertyFaults entries)
      (Part.properties (.map entries)) := by
  unfold Part.properties
  split
  · have hAll := StopsAtFirst.mapM stops_property entries
    exact hAll.map between
  · rename_i hFalse
    have hNone : entries = [] := by
      simpa [Value.isTrue] using hFalse
    subst hNone
    exact StopsAtFirst.ok ""

end Part

/- One whole number exceeds another if it is greater. -/
theorem Value.exceeds_int
    (m n : Int) :
    (Value.int m).exceeds (.int n) =
      .ok (decide (n < m)) := by
  have hPlaces :
      (Value.int m).exceeds (.int n) =
        .ok (decide (Place.distance n 0 m 0 < 0)) := by
    simp [exceeds, place?, Place.less]
  have hDistance : Place.distance n 0 m 0 = n - m := by
    simp [Place.distance, twoTo]
  rw [hPlaces, hDistance]
  congr 2
  exact propext ⟨by omega, by omega⟩

theorem Relationship.stops_hops
    (least most : Option Int) :
    StopsAtFirst (boundFaults least most)
      (hops (bound least) (bound most)) := by
  cases least with
  | none =>
      cases most with
      | none => exact StopsAtFirst.ok _
      | some n =>
          have hFaults :
              boundFaults none (some n) =
                (Value.int n).faults ++ [] := rfl
          rw [hFaults]
          apply (Value.stops_inText Value.plain (.int n)).bind
          intro last _
          exact StopsAtFirst.ok _
  | some m =>
      cases most with
      | none =>
          apply (Value.stops_inText Value.plain (.int m)).bind
          intro first _
          exact StopsAtFirst.ok _
      | some n =>
          have hHops :
              hops (bound (some m)) (bound (some n)) =
                range (.int m) (.int n) := rfl
          rw [hHops, range, Value.exceeds_int]
          apply (Value.stops_inText Value.plain (.int m)).bind
          intro first _
          apply (Value.stops_inText Value.plain (.int n)).bind
          intro last _
          unfold crossedBounds
          by_cases hCrossed : n < m
          · simpa [hCrossed] using
              StopsAtFirst.error
                (Fault.crossedHops (.int m) (.int n))
          · simpa [hCrossed] using StopsAtFirst.ok _

theorem Direction.stops_around
    (body : String)
    (d : Direction) :
    StopsAtFirst d.faults (d.around body) := by
  cases d with
  | unknown given =>
      apply (Value.stops_inText Value.shown given).bind
      intro _ _
      exact StopsAtFirst.error _
  | _ => exact StopsAtFirst.ok _

end CypherAssembly

------------------------------------------------------------
-- Whole Texts
------------------------------------------------------------

namespace CypherAssembly

/-
  A result is the whole text if all is sound.  Otherwise it
  is the first of some faults.
-/
def IsWholeOrFirst
    (isSound : Prop)
    (faults : List Fault)
    (chars : List Char)
    (result : Except Fault String) : Prop :=
  ((∃ f, result = .error f) ↔ ¬ isSound) ∧
    (∀ f, result = .error f ↔ faults.head? = some f) ∧
      ∀ text,
        result = .ok text ↔
          isSound ∧ text.toList = chars

/-
  What stops at the first of some faults is the whole text
  without them, if it never comes to an end with another.
-/
theorem IsWholeOrFirst.of_stops
    {isSound : Prop}
    {faults : List Fault}
    {chars : List Char}
    {result : Except Fault String}
    (hStops : StopsAtFirst faults result)
    (hSound : faults = [] ↔ isSound)
    (hChars : ∀ text, result = .ok text → text.toList = chars) :
    IsWholeOrFirst isSound faults chars result := by
  rw [← hStops.exists_ok_iff] at hSound
  refine ⟨?_, hStops, ?_⟩
  · rw [← hSound]
    cases result with
    | ok text => simp
    | error f => simp
  · intro text
    rw [← hSound]
    constructor
    · intro hOk
      exact ⟨⟨text, hOk⟩, hChars text hOk⟩
    · rintro ⟨⟨other, hOk⟩, hSame⟩
      have hOther := hChars other hOk
      rw [← hSame, String.toList_inj] at hOther
      rw [← hOther]
      exact hOk

/- Holds for bounds that are not the wrong way round. -/
def LinkParts.IsOrdered
    (l : LinkParts) : Prop :=
  ∀ least most,
    l.least = some least → l.most = some most → least ≤ most

theorem crossedBounds_eq_nil_iff
    (l : LinkParts) :
    crossedBounds l.least l.most = [] ↔ l.IsOrdered := by
  unfold LinkParts.IsOrdered
  cases l.least with
  | none => simp [crossedBounds]
  | some m =>
      cases l.most with
      | none => simp [crossedBounds]
      | some n => simp [crossedBounds]

/- Bounds that can be written are below a power of ten. -/
theorem faults_bound_eq_nil_iff
    (b : Option Int) :
    (Relationship.bound b).faults = [] ↔
      ∀ n, b = some n → n.natAbs < 10 ^ Decimal.longest := by
  cases b with
  | none => simp [Relationship.bound, Value.faults,
      Value.isTooLong]
  | some n =>
      have hLong :
          (Relationship.bound (some n)).isTooLong = true ↔
            10 ^ Decimal.longest ≤ n.natAbs :=
        Decimal.isTooLong_iff n
      rw [Value.faults_eq_nil_iff, ← Bool.not_eq_true, hLong,
        Nat.not_le]
      simp

/- Keys have the right form, and all values can be written. -/
theorem propertyFaults_eq_nil_iff
    (entries : Record Value) :
    propertyFaults entries = [] ↔
      (∀ entry ∈ entries, isName entry.1 = true) ∧
        ∀ entry ∈ entries, entry.2.isTooLong = false := by
  simp [propertyFaults, List.flatMap_eq_nil_iff,
    NameRole.faults_eq_nil_iff, Value.faults_eq_nil_iff,
    forall_and]

theorem forall_mem_namesOfVar
    (var : String) :
    (∀ name ∈ namesOfVar var, isName name = true) ↔
      var = "" ∨ isName var = true := by
  unfold namesOfVar
  by_cases hEmpty : var = ""
  · simp [hEmpty]
  · simp [hEmpty]

theorem Direction.faults_eq_nil_iff
    (d : Direction) :
    d.faults = [] ↔ d.isKnown = true := by
  cases d <;> simp [faults, isKnown]

namespace NodeParts

/-
  A node is sound if its names are of the right form and its
  values can be written.
-/
def IsSound
    (n : NodeParts) : Prop :=
  n.IsWellNamed ∧
    ∀ entry ∈ n.properties, entry.2.isTooLong = false

theorem faults_eq_nil_iff
    (n : NodeParts) :
    n.faults = [] ↔ n.IsSound := by
  simp only [faults, List.append_eq_nil_iff,
    NameRole.faults_eq_nil_iff, forall_mem_namesOfVar,
    propertyFaults_eq_nil_iff, IsSound, IsWellNamed]
  tauto

theorem stops_render
    (n : NodeParts) :
    StopsAtFirst n.faults n.node.render := by
  apply (Part.stops_var .nodeVariable n.var).bind
  intro var _
  apply (Part.stops_names .nodeLabel ":" n.labels).bind
  intro labels _
  rw [← List.append_nil (propertyFaults _)]
  apply (Part.stops_properties n.properties).bind
  intro properties _
  exact StopsAtFirst.ok _

/- A node is rendered as a whole, or its first fault is. -/
theorem isWholeOrFirst_render
    (n : NodeParts) :
    IsWholeOrFirst n.IsSound n.faults n.chars
      n.node.render :=
  .of_stops n.stops_render n.faults_eq_nil_iff
    fun _ hOk => (render_ok hOk).2

end NodeParts

namespace LinkParts

/- Holds for bounds with no more digits than are allowed. -/
def HasShortBounds
    (l : LinkParts) : Prop :=
  (∀ n, l.least = some n → n.natAbs < 10 ^ Decimal.longest) ∧
    ∀ n, l.most = some n → n.natAbs < 10 ^ Decimal.longest

/-
  A relationship is sound if its names and its arrow are of
  the right form, its bounds are in order, and its bounds and
  its values can be written.
-/
def IsSound
    (l : LinkParts) : Prop :=
  l.IsWellNamed ∧ l.IsOrdered ∧ l.HasShortBounds ∧
    ∀ entry ∈ l.properties, entry.2.isTooLong = false

theorem faults_eq_nil_iff
    (l : LinkParts) :
    l.faults = [] ↔ l.IsSound := by
  simp only [faults, boundFaults, List.append_eq_nil_iff,
    NameRole.faults_eq_nil_iff, forall_mem_namesOfVar,
    faults_bound_eq_nil_iff, crossedBounds_eq_nil_iff,
    propertyFaults_eq_nil_iff, Direction.faults_eq_nil_iff,
    IsSound, HasShortBounds, IsWellNamed]
  tauto

theorem stops_render
    (l : LinkParts) :
    StopsAtFirst l.faults l.relationship.render := by
  apply (Part.stops_var .relationshipVariable l.var).bind
  intro var _
  apply (Part.stops_names .relationshipType "|" l.types).bind
  intro types _
  apply (Relationship.stops_hops l.least l.most).bind
  intro length _
  apply (Part.stops_properties l.properties).bind
  intro properties _
  exact l.direction.stops_around _

/- So is a relationship. -/
theorem isWholeOrFirst_render
    (l : LinkParts) :
    IsWholeOrFirst l.IsSound l.faults l.chars
      l.relationship.render :=
  .of_stops l.stops_render l.faults_eq_nil_iff
    fun _ hOk => (render_ok hOk).2

end LinkParts

end CypherAssembly

------------------------------------------------------------
-- Shapes
------------------------------------------------------------

namespace CypherAssembly

namespace PatternParts

/- Holds for patterns with nothing wrong in their parts. -/
def IsSound : PatternParts → Prop
  | single node => node.IsSound
  | path start link finish =>
      start.IsSound ∧ link.IsSound ∧ finish.IsSound

/- The shapes that say what the parts say. -/
inductive HasShape : PatternParts → Content → Prop where
  | single (node : NodeParts) :
      HasShape (.single node) (.onlyNode (.node node.node))
  | partly
      (start : NodeParts)
      (link : LinkParts) :
      HasShape (.path start link .empty)
        (.partialPath (.node start.node)
          (.relationship link.relationship))
  | fully
      (start : NodeParts)
      (link : LinkParts)
      (finish : NodeParts) :
      HasShape (.path start link finish)
        (.fullPath (.node start.node)
          (.relationship link.relationship)
          (.node finish.node))

/- A pattern that says something has a shape that says it. -/
theorem exists_shape_of_draws
    {c : Content}
    {p : PatternParts}
    (hDraws : c.Draws p) :
    ∃ shape, c.preferred? = some shape ∧ p.HasShape shape := by
  cases p with
  | single node => exact ⟨_, hDraws, .single node⟩
  | path start link finish =>
      rcases hDraws with hFull | ⟨rfl, hPartial⟩
      · exact ⟨_, hFull, .fully start link finish⟩
      · exact ⟨_, hPartial, .partly start link⟩

theorem faults_eq_nil_iff
    (p : PatternParts) :
    p.faults = [] ↔ p.IsSound := by
  cases p with
  | single node => exact node.faults_eq_nil_iff
  | path start link finish =>
      simp only [faults, IsSound, List.append_eq_nil_iff,
        NodeParts.faults_eq_nil_iff,
        LinkParts.faults_eq_nil_iff]

/- The start is looked at first, and the end last. -/
theorem stops_fullPath
    (start : NodeParts)
    (link : LinkParts)
    (finish : NodeParts) :
    StopsAtFirst (path start link finish).faults
      (Content.fullPath (.node start.node)
        (.relationship link.relationship)
        (.node finish.node)).render := by
  apply start.stops_render.bind
  intro a _
  apply link.stops_render.bind
  intro r _
  rw [← List.append_nil finish.faults]
  apply finish.stops_render.bind
  intro b _
  exact StopsAtFirst.ok _

theorem chars_of_fullPath
    (start : NodeParts)
    (link : LinkParts)
    (finish : NodeParts)
    (text : String)
    (hOk :
      (Content.fullPath (.node start.node)
        (.relationship link.relationship)
        (.node finish.node)).render = .ok text) :
    text.toList = (path start link finish).chars := by
  rcases exists_of_bind_ok hOk with ⟨a, hStart, hOk⟩
  rcases exists_of_bind_ok hOk with ⟨r, hLink, hOk⟩
  rcases exists_of_bind_ok hOk with ⟨b, hFinish, hOk⟩
  cases hOk
  simp [chars, (NodeParts.render_ok hStart).2,
    (LinkParts.render_ok hLink).2,
    (NodeParts.render_ok hFinish).2]

/- A shape is rendered as a whole, or its first fault is. -/
theorem isWholeOrFirst_render
    {p : PatternParts}
    {shape : Content}
    (hShape : p.HasShape shape) :
    IsWholeOrFirst p.IsSound p.faults p.chars
      shape.render := by
  cases hShape with
  | single node => exact node.isWholeOrFirst_render
  | partly start link =>
      rw [Content.render_partialPath]
      exact
        .of_stops (stops_fullPath start link .empty)
          (faults_eq_nil_iff _)
          (chars_of_fullPath start link .empty)
  | fully start link finish =>
      exact
        .of_stops (stops_fullPath start link finish)
          (faults_eq_nil_iff _)
          (chars_of_fullPath start link finish)

end PatternParts

end CypherAssembly

------------------------------------------------------------
-- Kinds of Faults
------------------------------------------------------------

namespace CypherAssembly

/-
  Holds for failures to render, and for the problem that a
  number is too long to be written.
-/
def Fault.IsOfPattern
    (f : Fault) : Prop :=
  f.kind? = some .renderFailed ∨
    f = .outside (.notComputed .tooLong)

theorem NameRole.isOfPattern_of_mem
    {role : NameRole}
    {names : List String}
    {f : Fault}
    (hMem : f ∈ role.faults names) :
    f.IsOfPattern := by
  rcases List.mem_map.mp hMem with ⟨name, _, rfl⟩
  exact Or.inl rfl

theorem Value.isOfPattern_of_mem
    {v : Value}
    {f : Fault}
    (hMem : f ∈ v.faults) :
    f.IsOfPattern := by
  unfold faults at hMem
  split at hMem
  · exact Or.inr (List.mem_singleton.mp hMem)
  · cases hMem

theorem isOfPattern_of_mem_propertyFaults
    {entries : Record Value}
    {f : Fault}
    (hMem : f ∈ propertyFaults entries) :
    f.IsOfPattern := by
  rcases List.mem_flatMap.mp hMem with ⟨entry, _, hOf⟩
  rcases List.mem_append.mp hOf with hKey | hValue
  · exact NameRole.isOfPattern_of_mem hKey
  · exact Value.isOfPattern_of_mem hValue

theorem isOfPattern_of_mem_boundFaults
    {least most : Option Int}
    {f : Fault}
    (hMem : f ∈ boundFaults least most) :
    f.IsOfPattern := by
  simp only [boundFaults, List.mem_append] at hMem
  rcases hMem with hLeast | hMost | hCrossed
  · exact Value.isOfPattern_of_mem hLeast
  · exact Value.isOfPattern_of_mem hMost
  · unfold crossedBounds at hCrossed
    split at hCrossed
    · split at hCrossed
      · rw [List.mem_singleton.mp hCrossed]
        exact Or.inl rfl
      · cases hCrossed
    · cases hCrossed

theorem Direction.isOfPattern_of_mem
    {d : Direction}
    {f : Fault}
    (hMem : f ∈ d.faults) :
    f.IsOfPattern := by
  cases d with
  | unknown given =>
      rcases List.mem_append.mp hMem with hShown | hUnknown
      · exact Value.isOfPattern_of_mem hShown
      · rw [List.mem_singleton.mp hUnknown]
        exact Or.inl rfl
  | _ => cases hMem

theorem NodeParts.isOfPattern_of_mem
    {n : NodeParts}
    {f : Fault}
    (hMem : f ∈ n.faults) :
    f.IsOfPattern := by
  simp only [faults, List.mem_append] at hMem
  rcases hMem with hVar | hLabel | hProperty
  · exact NameRole.isOfPattern_of_mem hVar
  · exact NameRole.isOfPattern_of_mem hLabel
  · exact isOfPattern_of_mem_propertyFaults hProperty

theorem LinkParts.isOfPattern_of_mem
    {l : LinkParts}
    {f : Fault}
    (hMem : f ∈ l.faults) :
    f.IsOfPattern := by
  simp only [faults, List.mem_append] at hMem
  rcases hMem with hVar | hType | hBound | hProperty | hArrow
  · exact NameRole.isOfPattern_of_mem hVar
  · exact NameRole.isOfPattern_of_mem hType
  · exact isOfPattern_of_mem_boundFaults hBound
  · exact isOfPattern_of_mem_propertyFaults hProperty
  · exact Direction.isOfPattern_of_mem hArrow

/- All faults of a pattern are of these two kinds. -/
theorem PatternParts.isOfPattern_of_mem
    {p : PatternParts}
    {f : Fault}
    (hMem : f ∈ p.faults) :
    f.IsOfPattern := by
  cases p with
  | single node => exact NodeParts.isOfPattern_of_mem hMem
  | path start link finish =>
      simp only [faults, List.mem_append] at hMem
      rcases hMem with hStart | hLink | hFinish
      · exact NodeParts.isOfPattern_of_mem hStart
      · exact LinkParts.isOfPattern_of_mem hLink
      · exact NodeParts.isOfPattern_of_mem hFinish

end CypherAssembly

------------------------------------------------------------
-- Resolved Patterns
------------------------------------------------------------

namespace CypherAssembly

/- The kind of the first shape that a pattern has. -/
def Content.shapeKind
    (c : Content) : ContentKind :=
  (c.preferred?.getD .nothing).kind

namespace PatternParts

/- The text of a pattern that is sound, or the empty text. -/
def text
    (p : PatternParts) : String :=
  if p.faults.isEmpty then String.ofList p.chars else ""

variable {p : PatternParts} {c : Content}

theorem patternText_of_draws
    (hDraws : c.Draws p) :
    c.patternText = p.text := by
  rcases exists_shape_of_draws hDraws with
    ⟨shape, hPreferred, hShape⟩
  rcases isWholeOrFirst_render hShape with
    ⟨_, hFirst, hWhole⟩
  rw [Content.patternText, hPreferred, text]
  cases hFaults : p.faults with
  | nil =>
      have hOk : shape.render = .ok (String.ofList p.chars) :=
        (hWhole _).mpr
          ⟨p.faults_eq_nil_iff.mp hFaults,
            String.toList_ofList⟩
      simp [Content.textOrEmpty, hOk]
  | cons f rest =>
      have hError : shape.render = .error f := by
        rw [hFirst, hFaults, List.head?_cons]
      simp [Content.textOrEmpty, hError]

theorem patternFaultAt?_of_draws
    (hDraws : c.Draws p)
    (spot : Spot) :
    c.patternFaultAt? spot =
      p.faults.head?.map (Fault.placed c.shapeKind spot) := by
  rcases exists_shape_of_draws hDraws with
    ⟨shape, hPreferred, hShape⟩
  rcases isWholeOrFirst_render hShape with
    ⟨hFails, hFirst, _⟩
  rw [Content.patternFaultAt?, hPreferred]
  cases hFaults : p.faults with
  | nil =>
      have hSound := p.faults_eq_nil_iff.mp hFaults
      cases hRender : shape.render with
      | ok text => simp [Content.faultAt?, hRender]
      | error f => exact absurd hSound (hFails.mp ⟨f, hRender⟩)
  | cons f rest =>
      have hError : shape.render = .error f := by
        rw [hFirst, hFaults, List.head?_cons]
      rw [Content.shapeKind, hPreferred]
      exact Content.faultAt?_of_error spot hError

/- A pattern that says something can be resolved. -/
theorem patternRefusal?_of_draws
    (hDraws : c.Draws p) :
    c.patternRefusal? = none := by
  rcases exists_shape_of_draws hDraws with
    ⟨shape, hPreferred, _⟩
  unfold Content.preferred? Content.knownPlaces at hPreferred
  unfold Content.patternRefusal?
  cases hPlaces : c.places with
  | ok places => rfl
  | error problem =>
      simp [hPlaces, Except.toOption] at hPreferred

/- Sound patterns side by side are all the text there is. -/
theorem join_text
    (parts : List PatternParts) :
    String.join (parts.map text) =
      String.ofList
        ((parts.filter fun p => p.faults.isEmpty).flatMap
          chars) := by
  induction parts with
  | nil => rfl
  | cons p rest ih =>
      rw [List.map_cons, String.join_cons, ih, text]
      cases hSound : p.faults.isEmpty with
      | true => simp [hSound]
      | false => simp [hSound]

end PatternParts

/-
  The first faults of several patterns, each put where its
  pattern stands in the clause.
-/
def firstFaults
    (clause : String)
    (given : List Content)
    (parts : List PatternParts) : List Fault :=
  (given.zip parts).zipIdx.filterMap fun a =>
    a.1.2.faults.head?.map
      (Fault.placed a.1.1.shapeKind (.inClause clause a.2))

/-
  Patterns are resolved to the texts of those that are sound
  and to the first fault of each of the others.
-/
theorem resolveAll_of_draws
    {given : List Content}
    {parts : List PatternParts}
    (clause : String)
    (hDraws : List.Forall₂ Content.Draws given parts) :
    (resolveAll (.ok (some clause)) given).outcome =
        .ok
          (String.ofList
            ((parts.filter fun p => p.faults.isEmpty).flatMap
              PatternParts.chars)) ∧
      (resolveAll (.ok (some clause)) given).faults =
        firstFaults clause given parts := by
  have hTexts :
      given.map Content.patternText =
        parts.map PatternParts.text := by
    induction hDraws with
    | nil => rfl
    | cons hFirst _ ih =>
        rw [List.map_cons, List.map_cons, ih,
          PatternParts.patternText_of_draws hFirst]
  have hFaults :
      ∀ start,
        ((given.zipIdx start).filterMap fun a =>
            a.1.patternFaultAt? (.inClause clause a.2)) =
          ((given.zip parts).zipIdx start).filterMap fun a =>
            a.1.2.faults.head?.map
              (Fault.placed a.1.1.shapeKind
                (.inClause clause a.2)) := by
    clear hTexts
    induction hDraws with
    | nil => exact fun _ => rfl
    | cons hFirst _ ih =>
        intro start
        rw [List.zipIdx_cons, List.zip_cons_cons,
          List.zipIdx_cons, List.filterMap_cons,
          List.filterMap_cons, ih,
          PatternParts.patternFaultAt?_of_draws hFirst]
  have hGoesOn :
      given.findSome? Content.patternRefusal? = none := by
    rw [List.findSome?_eq_none_iff]
    intro c hMem
    clear hTexts hFaults
    induction hDraws with
    | nil => cases hMem
    | cons hFirst _ ih =>
        rcases List.mem_cons.mp hMem with rfl | hRest
        · exact PatternParts.patternRefusal?_of_draws hFirst
        · exact ih hRest
  cases hOutcome :
      (resolveAll (.ok (some clause)) given).outcome with
  | error r =>
      have hFirst :=
        (resolveAll_error_iff _ given r).mp hOutcome
      rw [hGoesOn] at hFirst
      cases hFirst
  | ok text =>
      rw [resolveAll_faults clause given text hOutcome,
        resolveAll_ok _ given text hOutcome, hTexts,
        PatternParts.join_text]
      exact ⟨rfl, hFaults 0⟩

end CypherAssembly

------------------------------------------------------------
-- Whole or Left Out
------------------------------------------------------------

namespace CypherAssembly

/- Three arrows are known, and any other text is a fault. -/
theorem Direction.faults_ofValue
    (arrow : String) :
    (Direction.ofValue (.text arrow)).faults =
      if arrow = "->" ∨ arrow = "<-" ∨ arrow = "-" then []
      else [.unknownDirection (.text arrow)] := by
  by_cases hOutgoing : arrow = "->"
  · subst hOutgoing
    rfl
  by_cases hIncoming : arrow = "<-"
  · subst hIncoming
    rfl
  by_cases hEither : arrow = "-"
  · subst hEither
    rfl
  have hUnknown :
      Direction.ofValue (.text arrow) =
        .unknown (.text arrow) := by
    simp [Direction.ofValue, hOutgoing, hIncoming, hEither]
  have hShown : (Value.text arrow).faults = [] := rfl
  rw [hUnknown]
  simp [faults, hShown, hOutgoing, hIncoming, hEither]

/-
  A node, a relationship or a shape made of them is rendered
  as a whole, or it fails with the first of its faults.  It
  fails if and only if a name in it does not pass the check,
  its bounds are the wrong way round, its arrow is not one of
  three, or a number in it is too long to be written.  Among
  several patterns, each one that fails is left out and
  leaves its first fault, and the others stand side by side
  as they are alone.
-/
theorem patterns_are_whole_or_left_out
    (clause : String)
    (given : List Content)
    (parts : List PatternParts)
    (hDraws : List.Forall₂ Content.Draws given parts) :
    let resolved := resolveAll (.ok (some clause)) given
    (∀ n : NodeParts,
      IsWholeOrFirst n.IsSound n.faults n.chars
        n.node.render) ∧
      (∀ l : LinkParts,
        IsWholeOrFirst l.IsSound l.faults l.chars
          l.relationship.render) ∧
      (∀ p shape,
        PatternParts.HasShape p shape →
          IsWholeOrFirst p.IsSound p.faults p.chars
            shape.render) ∧
      (∀ arrow,
        (Direction.ofValue (.text arrow)).faults =
          if arrow = "->" ∨ arrow = "<-" ∨ arrow = "-" then []
          else [.unknownDirection (.text arrow)]) ∧
      (∀ p : PatternParts,
        ∀ f ∈ p.faults,
          f.kind? = some .renderFailed ∨
            f = .outside (.notComputed .tooLong)) ∧
      resolved.outcome =
        .ok
          (String.ofList
            ((parts.filter fun p => p.faults.isEmpty).flatMap
              PatternParts.chars)) ∧
      resolved.faults = firstFaults clause given parts := by
  intro resolved
  rcases resolveAll_of_draws clause hDraws with
    ⟨hText, hFaults⟩
  refine ⟨?_, ?_, ?_, ?_, ?_, hText, hFaults⟩
  · exact NodeParts.isWholeOrFirst_render
  · exact LinkParts.isWholeOrFirst_render
  · exact fun _ _ hShape =>
      PatternParts.isWholeOrFirst_render hShape
  · exact Direction.faults_ofValue
  · exact fun _ _ hMem => PatternParts.isOfPattern_of_mem hMem

/- A node with two names that are none. -/
def tornNode : NodeParts :=
  { var := "a b"
    labels := ["A", ""]
    properties := [] }

/- A relationship with wrong bounds and no known arrow. -/
def tornLink : LinkParts :=
  { arrow with
    direction := .ofValue (.text "~>")
    least := some 5 }

/-
  A node with faults, one that is fine, and a path of which
  all parts but the start have faults.  The node in the
  middle is all the text there is, and each of the others
  leaves one fault.
-/
theorem patterns_around_sound_node :
    let parts : List PatternParts :=
      [.single tornNode, .single target,
        .path target tornLink tornNode]
    let given : List Content :=
      [.pattern (.onlyNode (.node tornNode.node)) .nothing
          .nothing,
        .pattern (.onlyNode (.node target.node))
          (.bare (.int 0)) .nothing,
        .pattern .nothing .nothing
          (.fullPath (.node target.node)
            (.relationship tornLink.relationship)
            (.node tornNode.node))]
    let resolved := resolveAll (.ok (some "MATCH")) given
    List.Forall₂ Content.Draws given parts ∧
      resolved.outcome =
        .ok
          ("(n:A:\x60)-[\x60 \x7bsize: -3, to: $to, " ++
            "text: 'a, b: (c)'\x7d)") ∧
      resolved.faults =
        [.badName .nodeVariable "a b",
          .crossedHops (.int 5) (.int 4)] ∧
      (PatternParts.path target tornLink tornNode).faults =
        [.crossedHops (.int 5) (.int 4),
          .unknownDirection (.text "~>"),
          .badName .nodeVariable "a b",
          .badName .nodeLabel ""] := by
  intro parts given resolved
  have hDraws : List.Forall₂ Content.Draws given parts :=
    .cons rfl (.cons rfl (.cons (Or.inl rfl) .nil))
  rcases patterns_are_whole_or_left_out "MATCH" given parts
      hDraws with
    ⟨_, _, _, _, _, hText, hFaults⟩
  have hSound :
      (parts.filter fun p => p.faults.isEmpty) =
        [.single target] := rfl
  have hChars :
      String.ofList
          ([PatternParts.single target].flatMap
            PatternParts.chars) =
        "(n:A:\x60)-[\x60 \x7bsize: -3, to: $to, " ++
          "text: 'a, b: (c)'\x7d)" := rfl
  rw [hSound, hChars] at hText
  exact ⟨hDraws, hText, hFaults, rfl⟩

/- A relationship of more hops than can be written. -/
def endlessLink : LinkParts :=
  { arrow with
    least := some ((10 ^ Decimal.longest : Nat) : Int)
    most := none }

/-
  Names, bounds and an arrow of the right form are not all
  that it takes: a bound can be too long to be written.  Nor
  are nodes and relationships patterns themselves, though
  each of them has a text.
-/
theorem sound_form_is_not_enough :
    endlessLink.IsWellNamed ∧
      endlessLink.IsOrdered ∧
      endlessLink.relationship.render =
        .error (.outside (.notComputed .tooLong)) ∧
      (Node.ofParts "n" [] []).render = .ok "(n)" ∧
      (resolveAll (.ok (some "MATCH"))
          [.node (.ofParts "n" [] [])]).outcome =
        .error (.ofProblem (.lacking .node "only_node")) := by
  have hLong :
      Decimal.isTooLong
          ((10 ^ Decimal.longest : Nat) : Int) = true := by
    rw [Decimal.isTooLong_iff, Int.natAbs_natCast]
  have hBound :
      (Relationship.bound endlessLink.least).faults =
        [.outside (.notComputed .tooLong)] := by
    exact if_pos hLong
  have hNamed : endlessLink.IsWellNamed := by
    unfold LinkParts.IsWellNamed
    decide
  have hFirst :
      endlessLink.faults.head? =
        some (.outside (.notComputed .tooLong)) := by
    have hVar :
        NameRole.relationshipVariable.faults
          (namesOfVar endlessLink.var) = [] := rfl
    have hTypes :
        NameRole.relationshipType.faults endlessLink.types =
          [] := rfl
    unfold LinkParts.faults boundFaults
    rw [hVar, hTypes, hBound]
    rfl
  refine ⟨hNamed, ?_, ?_, rfl, rfl⟩
  · intro least most _ hMost
    cases hMost
  · exact (endlessLink.stops_render _).mpr hFirst

end CypherAssembly
