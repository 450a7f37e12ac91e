import CypherAssembly.Pattern.Node
import CypherAssembly.Pattern.Relationship
import CypherAssembly.Proofs.Pattern.Literals

/-
  Reading patterns.

  Key definitions include:
    * `NodeParts`
    * `LinkParts`
    * `PatternParts`

  Key theorems include:
    * `NodeParts.isReadable`
    * `LinkParts.isReadable`
    * `PatternParts.isReadable`
    * `PatternParts.isReadable_all`

  A node ends at its parenthesis.  A relationship ends where
  the next parenthesis is opened, which also tells an arrow
  from a line.  What follows a node tells whether it is the
  start of a path.
-/

------------------------------------------------------------
-- Nodes
------------------------------------------------------------

namespace CypherAssembly

/- What a node pattern says. -/
structure NodeParts where
  var : String
  labels : List String
  properties : Record Value

namespace NodeParts

/- The node pattern that says so. -/
def node
    (n : NodeParts) : Node :=
  .ofParts n.var n.labels n.properties

/- The node pattern that says nothing. -/
def empty : NodeParts :=
  { var := ""
    labels := []
    properties := [] }

/- All parts of a node, in the order they are written in. -/
def fields
    (n : NodeParts) :
    String × List String × Record Value :=
  (n.var, n.labels, n.properties)

theorem fields_injective :
    Function.Injective fields := by
  rintro ⟨_, _, _⟩ ⟨_, _, _⟩ hEq
  cases hEq
  rfl

/- A node in characters. -/
def chars
    (n : NodeParts) : List Char :=
  '(' :: (n.var.toList ++
    (namesChars ':' n.labels ++
      propertiesChars n.properties)) ++ [')']

/- Holds for nodes with names of the right form alone. -/
def IsWellNamed
    (n : NodeParts) : Prop :=
  (n.var = "" ∨ isName n.var = true) ∧
    (∀ label ∈ n.labels, isName label = true) ∧
      ∀ entry ∈ n.properties, isName entry.1 = true

/- Holds for nodes with values that can be told apart. -/
def IsLegible
    (n : NodeParts) : Prop :=
  ∀ entry ∈ n.properties, entry.2.isLegible = true

end NodeParts

/- Properties do not start like what can follow names. -/
theorem startsIn_propertiesChars
    (p : Char → Bool)
    (hSpace : p ' ' = true)
    (entries : Record Value) :
    StartsIn p (propertiesChars entries) := by
  unfold propertiesChars
  split
  · exact startsIn_nil p
  · exact startsIn_cons _ hSpace

theorem startsIn_namesChars
    (p : Char → Bool)
    (hColon : p ':' = true)
    (separator : Char)
    (names : List String) :
    StartsIn p (namesChars separator names) := by
  unfold namesChars
  split
  · exact startsIn_nil p
  · exact startsIn_cons _ hColon

theorem startsIn_hopsChars
    (p : Char → Bool)
    (hStar : p '*' = true)
    (bounds : Option Int × Option Int) :
    StartsIn p (hopsChars bounds) := by
  unfold hopsChars
  split
  · exact startsIn_nil p
  · exact startsIn_cons _ hStar

theorem NodeParts.isReadable :
    IsReadable
      (fun n : NodeParts => n.IsWellNamed ∧ n.IsLegible)
      chars
      (fun _ => true) := by
  have hProperties :=
    isReadable_properties.limited (· == ')') (forall_of_beq rfl)
  have hLabels :=
    (isReadable_names ':' rfl).pair hProperties
      (fun entries _ =>
        startsIn_propertiesChars _ rfl entries)
      (forall_of_beq rfl)
  have hAll :=
    isReadable_var.pair hLabels
      (fun x _ =>
        (startsIn_namesChars _ rfl ':' x.1).append
          (startsIn_propertiesChars _ rfl x.2))
      (forall_of_beq rfl)
  have hNode :=
    ((hAll.prefixed ['(']).closed ')' rfl).comap
      fields_injective
  apply hNode.restrict
  rintro n ⟨⟨hVar, hLabels, hKeys⟩, hValues⟩
  refine ⟨hVar, hLabels, ?_⟩
  intro entry hMem
  exact ⟨hKeys entry hMem, hValues entry hMem⟩

end CypherAssembly

------------------------------------------------------------
-- Relationships
------------------------------------------------------------

namespace CypherAssembly

namespace Direction

/- Holds for the directions that arrows are written for. -/
def isKnown : Direction → Bool
  | unknown _ => false
  | _ => true

/- What stands before the bracketed part. -/
def front : Direction → List Char
  | incoming => ['<', '-']
  | _ => ['-']

/- What stands behind the bracketed part. -/
def back : Direction → List Char
  | outgoing => ['-', '>']
  | _ => ['-']

theorem eq_of_front_append_eq
    (d e : Direction)
    (rest others : List Char)
    (hEq : d.front ++ rest = e.front ++ others) :
    d.front = e.front ∧ rest = others := by
  cases d <;> cases e <;> simp_all [front]

/- Behind the brackets, a parenthesis ends the arrow. -/
theorem eq_of_back_append_eq
    (d e : Direction)
    (rest others : List Char)
    (hRest : StartsIn (· == '(') rest)
    (hOthers : StartsIn (· == '(') others)
    (hEq : d.back ++ rest = e.back ++ others) :
    d.back = e.back ∧ rest = others := by
  have hArrow :
      ∀ cs ds,
        StartsIn (· == '(') cs → cs ≠ '>' :: ds :=
    fun cs ds hBehind => hBehind.ne_cons ds rfl
  have hRestNe := hArrow rest others hRest
  have hOthersNe := (hArrow others rest hOthers).symm
  cases d <;> cases e <;> simp_all [back]

theorem eq_of_front_of_back
    (d e : Direction)
    (hKnown : d.isKnown = true)
    (hKnownToo : e.isKnown = true)
    (hFront : d.front = e.front)
    (hBack : d.back = e.back) :
    d = e := by
  cases d <;> cases e <;>
    simp_all [front, back, isKnown]

/- An arrow can be read around everything that can be. -/
theorem isReadable_around
    {A : Type}
    {isGood : A → Prop}
    {write : A → List Char}
    (hReadable : IsReadable isGood write (fun _ => true)) :
    IsReadable
      (fun x : Direction × A =>
        x.1.isKnown = true ∧ isGood x.2)
      (fun x => x.1.front ++ (write x.2 ++ x.1.back))
      (· == '(') := by
  rintro ⟨d, a⟩ ⟨e, b⟩ rest others ⟨hKnown, hA⟩
    ⟨hKnownToo, hB⟩ hRest hOthers hEq
  simp only [List.append_assoc] at hEq
  rcases eq_of_front_append_eq d e _ _ hEq with
    ⟨hFront, hBodies⟩
  rcases hReadable a b _ _ hA hB (fun _ _ => rfl)
      (fun _ _ => rfl) hBodies with
    ⟨rfl, hBacks⟩
  rcases eq_of_back_append_eq d e rest others hRest hOthers
      hBacks with
    ⟨hBack, hSame⟩
  have hDirection :=
    eq_of_front_of_back d e hKnown hKnownToo hFront hBack
  exact ⟨by rw [hDirection], hSame⟩

end Direction

/- What a relationship pattern says. -/
structure LinkParts where
  var : String
  types : List String
  properties : Record Value
  direction : Direction
  least : Option Int
  most : Option Int

namespace LinkParts

/- The relationship pattern that says so. -/
def relationship
    (l : LinkParts) : Relationship :=
  .ofParts l.var l.types l.properties l.direction l.least
    l.most

/- What stands between the brackets, in order. -/
abbrev Body :=
  String × List String × (Option Int × Option Int) ×
    Record Value

/- The direction and what stands between the brackets. -/
def fields
    (l : LinkParts) : Direction × Body :=
  (l.direction, l.var, l.types, (l.least, l.most),
    l.properties)

theorem fields_injective :
    Function.Injective fields := by
  rintro ⟨_, _, _, _, _, _⟩ ⟨_, _, _, _, _, _⟩ hEq
  cases hEq
  rfl

/- The brackets and what stands between them. -/
def bodyChars
    (x : Body) : List Char :=
  '[' :: (x.1.toList ++
    (namesChars '|' x.2.1 ++
      (hopsChars x.2.2.1 ++ propertiesChars x.2.2.2))) ++
    [']']

/- A relationship in characters. -/
def chars
    (l : LinkParts) : List Char :=
  l.direction.front ++
    (bodyChars l.fields.2 ++ l.direction.back)

/- Holds for names and arrows of the right form alone. -/
def IsWellNamed
    (l : LinkParts) : Prop :=
  (l.var = "" ∨ isName l.var = true) ∧
    (∀ type ∈ l.types, isName type = true) ∧
      (∀ entry ∈ l.properties, isName entry.1 = true) ∧
        l.direction.isKnown = true

/- Holds for links with values that can be told apart. -/
def IsLegible
    (l : LinkParts) : Prop :=
  ∀ entry ∈ l.properties, entry.2.isLegible = true

theorem isReadable_body :
    IsReadable
      (fun x : Body =>
        (x.1 = "" ∨ isName x.1 = true) ∧
          (∀ type ∈ x.2.1, isName type = true) ∧
            True ∧ ∀ entry ∈ x.2.2.2, isLegibleEntry entry)
      bodyChars
      (fun _ => true) := by
  have hProperties :=
    isReadable_properties.limited (· == ']') (forall_of_beq rfl)
  have hHops :=
    isReadable_hops.pair hProperties
      (fun entries _ =>
        startsIn_propertiesChars _ rfl entries)
      (forall_of_beq rfl)
  have hTypes :=
    (isReadable_names '|' rfl).pair hHops
      (fun x _ =>
        (startsIn_hopsChars _ rfl x.1).append
          (startsIn_propertiesChars _ rfl x.2))
      (forall_of_beq rfl)
  have hAll :=
    isReadable_var.pair hTypes
      (fun x _ =>
        (startsIn_namesChars _ rfl '|' x.1).append
          ((startsIn_hopsChars _ rfl x.2.1).append
            (startsIn_propertiesChars _ rfl x.2.2)))
      (forall_of_beq rfl)
  exact (hAll.prefixed ['[']).closed ']' rfl

theorem isReadable :
    IsReadable
      (fun l : LinkParts => l.IsWellNamed ∧ l.IsLegible)
      chars
      (· == '(') := by
  have hLink :=
    (Direction.isReadable_around isReadable_body).comap
      fields_injective
  apply hLink.restrict
  rintro l ⟨⟨hVar, hTypes, hKeys, hKnown⟩, hValues⟩
  refine ⟨hKnown, hVar, hTypes, trivial, ?_⟩
  intro entry hMem
  exact ⟨hKeys entry hMem, hValues entry hMem⟩

/- A link does not begin like a node. -/
theorem exists_first_of_chars
    (l : LinkParts) :
    ∃ c cs, l.chars = c :: cs ∧ (c == '(') = false := by
  unfold chars
  cases l.direction with
  | incoming => exact ⟨'<', _, rfl, rfl⟩
  | outgoing => exact ⟨'-', _, rfl, rfl⟩
  | either => exact ⟨'-', _, rfl, rfl⟩
  | unknown given => exact ⟨'-', _, rfl, rfl⟩

end LinkParts

end CypherAssembly

------------------------------------------------------------
-- Patterns
------------------------------------------------------------

namespace CypherAssembly

/-
  What a pattern says.  A path without a known end is a path
  to the node that nothing is said about.
-/
inductive PatternParts where
  | single (node : NodeParts)
  | path (start : NodeParts) (link : LinkParts)
      (finish : NodeParts)

namespace PatternParts

/- A pattern in characters. -/
def chars : PatternParts → List Char
  | single node => node.chars
  | path start link finish =>
      start.chars ++ (link.chars ++ finish.chars)

/- Holds for patterns with all names of the right form. -/
def IsWellNamed : PatternParts → Prop
  | single node => node.IsWellNamed
  | path start link finish =>
      start.IsWellNamed ∧ link.IsWellNamed ∧
        finish.IsWellNamed

/- Holds for patterns with values that can be told apart. -/
def IsLegible : PatternParts → Prop
  | single node => node.IsLegible
  | path start link finish =>
      start.IsLegible ∧ link.IsLegible ∧ finish.IsLegible

theorem exists_first_of_chars
    (p : PatternParts) :
    ∃ cs, p.chars = '(' :: cs := by
  cases p with
  | single node => exact ⟨_, rfl⟩
  | path start link finish => exact ⟨_, rfl⟩

/- Behind a node, a path goes on and a pattern does not. -/
theorem node_append_ne
    (node start : NodeParts)
    (link : LinkParts)
    (rest others : List Char)
    (hNode : node.IsWellNamed ∧ node.IsLegible)
    (hStart : start.IsWellNamed ∧ start.IsLegible)
    (hRest : StartsIn (· == '(') rest) :
    node.chars ++ rest ≠
      start.chars ++ (link.chars ++ others) := by
  intro hEq
  rcases NodeParts.isReadable node start _ _ hNode hStart
      (fun _ _ => rfl) (fun _ _ => rfl) hEq with
    ⟨_, hBehind⟩
  rcases link.exists_first_of_chars with ⟨c, cs, hChars, hNot⟩
  rw [hChars] at hBehind
  exact hRest.ne_cons _ hNot hBehind

theorem isReadable :
    IsReadable
      (fun p : PatternParts => p.IsWellNamed ∧ p.IsLegible)
      chars
      (· == '(') := by
  have hAll : ∀ cs, StartsIn (fun _ => true) cs :=
    fun _ _ _ => rfl
  rintro p q rest others ⟨hNames, hValues⟩
    ⟨hNamesToo, hValuesToo⟩ hRest hOthers hEq
  cases p with
  | single node =>
      cases q with
      | single other =>
          rcases NodeParts.isReadable node other rest others
              ⟨hNames, hValues⟩ ⟨hNamesToo, hValuesToo⟩
              (hAll _) (hAll _) hEq with
            ⟨rfl, hSame⟩
          exact ⟨rfl, hSame⟩
      | path start link finish =>
          simp only [chars, List.append_assoc] at hEq
          exact
            absurd hEq
              (node_append_ne node start link rest _
                ⟨hNames, hValues⟩
                ⟨hNamesToo.1, hValuesToo.1⟩ hRest)
  | path start link finish =>
      simp only [chars, List.append_assoc] at hEq
      cases q with
      | single other =>
          exact
            absurd hEq.symm
              (node_append_ne other start link others _
                ⟨hNamesToo, hValuesToo⟩
                ⟨hNames.1, hValues.1⟩ hOthers)
      | path start' link' finish' =>
          simp only [List.append_assoc] at hEq
          rcases NodeParts.isReadable start start' _ _
              ⟨hNames.1, hValues.1⟩
              ⟨hNamesToo.1, hValuesToo.1⟩
              (hAll _) (hAll _) hEq with
            ⟨rfl, hLinks⟩
          rcases LinkParts.isReadable link link' _ _
              ⟨hNames.2.1, hValues.2.1⟩
              ⟨hNamesToo.2.1, hValuesToo.2.1⟩
              (startsIn_cons _ rfl) (startsIn_cons _ rfl)
              hLinks with
            ⟨rfl, hEnds⟩
          rcases NodeParts.isReadable finish finish' rest
              others ⟨hNames.2.2, hValues.2.2⟩
              ⟨hNamesToo.2.2, hValuesToo.2.2⟩
              (hAll _) (hAll _) hEnds with
            ⟨rfl, hSame⟩
          exact ⟨rfl, hSame⟩

/- Patterns side by side can be told apart. -/
theorem isReadable_all :
    IsReadable
      (fun given : List PatternParts =>
        ∀ p ∈ given, p.IsWellNamed ∧ p.IsLegible)
      (fun given => given.flatMap chars)
      (fun _ => false) := by
  apply isReadable.flatMap
  · intro c hNone
    cases hNone
  · intro p _
    rcases p.exists_first_of_chars with ⟨cs, hChars⟩
    exact ⟨'(', cs, hChars, rfl, rfl⟩

end PatternParts

end CypherAssembly
