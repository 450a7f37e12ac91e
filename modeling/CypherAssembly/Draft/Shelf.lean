import CypherAssembly.Draft.ContentDraft
import CypherAssembly.Draft.Edit
import CypherAssembly.Value.Register

/-
  A shelf for content with names.

  Key definitions include:
    * `Shelf`
    * `Shelf.contents`
    * `Shelf.find?`
    * `Shelf.define`
    * `Shelf.edit`

  Content on a shelf can be part of other content, and an
  edit of it shows in all content that it is part of.  So a
  shelf keeps drafts with the edits made to them, and builds
  the content anew whenever it is asked for.  A draft refers
  to older drafts only: a name means what it meant when the
  draft was put on the shelf.  This is why one pass over the
  drafts, the oldest first, builds all content.
-/

------------------------------------------------------------
-- Shelves
------------------------------------------------------------

namespace CypherAssembly

/- A draft, the slots its names mean, and its edits. -/
structure ShelfEntry where
  draft : ContentDraft
  slots : Register Nat
  edits : List Edit

/-
  The oldest entry comes first.  The slot of an entry is the
  number of older entries.
-/
structure Shelf where
  entries : List ShelfEntry := []
  slots : Register Nat := []

namespace ShelfEntry

/- The content of an entry, when `older` content is built. -/
def content?
    (older : List (Option Content))
    (entry : ShelfEntry) : Option Content :=
  let find? := fun name => do
    (older[(← entry.slots.get? name)]?).join
  (entry.draft.build find?).toOption.map fun c =>
    entry.edits.foldl (fun c e => (e.apply c).content) c

end ShelfEntry

namespace Shelf

/- The content in all slots, in its present state. -/
def contents
    (s : Shelf) : List (Option Content) :=
  s.entries.foldl
    (fun older entry => older ++ [entry.content? older])
    []

/- The content of a name, in its present state. -/
def find?
    (s : Shelf)
    (name : Value) : Option Content := do
  (s.contents[(← s.slots.get? name)]?).join

/-
  Put a draft under a name.  A draft that only refers to
  another name shares the slot of that name.
-/
def define
    (s : Shelf)
    (name : Value)
    (draft : ContentDraft) :
    Except Refusal (Shelf × Content) := do
  let content ← draft.build s.find?
  let name ← name.asName
  match draft with
  | .named other =>
      let slot := (s.slots.get? other).getD s.entries.length
      return ({ s with slots := s.slots.put name slot }, content)
  | _ =>
      let entry : ShelfEntry :=
        { draft
          slots := s.slots
          edits := [] }
      let shelf : Shelf :=
        { entries := s.entries ++ [entry]
          slots := s.slots.put name s.entries.length }
      return (shelf, content)

/- The slot and the content of a name that is known. -/
def need
    (s : Shelf)
    (name : Value) : Except Refusal (Nat × Content) := do
  match s.slots.get? (← name.asName), s.find? name with
  | some slot, some content => return (slot, content)
  | _, _ => throw (.noSuchName name)

/-
  Edit the content of a name.  The edit is noted even if it
  is refused, since it may have had an effect; one without
  effect will have none later on.
-/
def edit
    (s : Shelf)
    (name : Value)
    (e : Edit) : Shelf × Option Refusal :=
  match s.need name with
  | .ok (slot, content) =>
      let add := fun entry : ShelfEntry =>
        { entry with edits := entry.edits ++ [e] }
      ({ s with entries := s.entries.modify slot add },
        (e.apply content).refusal)
  | .error r => (s, some r)

end Shelf

end CypherAssembly
