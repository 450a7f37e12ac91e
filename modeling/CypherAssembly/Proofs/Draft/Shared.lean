import CypherAssembly.Draft.FaultDraft
import CypherAssembly.Proofs.Checked
import CypherAssembly.Proofs.Steps

/-
  Faults that share one record of details.

  Key definitions include:
    * `FaultDraft.recorded`
    * `FaultDraft.placed`
    * `FaultDraft.inTurn`

  Key theorems include:
    * `DetailsDraft.ofRecord_of_placed`
    * `DetailsDraft.ofRecord_used`
    * `FaultDraft.inTurn_used`
    * `FaultDraft.shared_record_is_used_up`

  A caller can describe several faults with the same record.
  The first one takes the source and the operation out of
  it, so all others find a record without them.  What is
  left stays as it is from then on.  None of the faults is
  placed, whatever else the record says.
-/

------------------------------------------------------------
-- Records of Details
------------------------------------------------------------

namespace CypherAssembly

namespace DetailsDraft

variable {fields : Record Value}
variable {details : Details}

/- Placed details were checked field by field. -/
theorem ofPlaced_ok
    (hPlaced : ofPlaced fields = .ok details) :
    Field.required "source" Field.text? fields =
        .ok details.source ∧
      Field.required "operation" Field.text? fields =
        .ok details.operation ∧
      moment fields = .ok details.moment ∧
      details.placement ≠ none := by
  rcases exists_of_map_ok hPlaced with ⟨r, hFields, rfl⟩
  rcases Checked.exists_of_and_ok hFields with
    ⟨hSource, hFields⟩
  rcases Checked.exists_of_and_ok hFields with
    ⟨hOperation, hFields⟩
  rcases Checked.exists_of_and_ok hFields with ⟨hMoment, _⟩
  exact
    ⟨hSource, hOperation, hMoment, Option.some_ne_none _⟩

/-
  A record with all fields of placed details describes the
  same details, but for the placement.
-/
theorem ofRecord_of_placed
    (hPlaced : ofPlaced fields = .ok details) :
    ofRecord fields =
      .ok { details with placement := none } := by
  rcases ofPlaced_ok hPlaced with
    ⟨hSource, hOperation, hMoment, _⟩
  simp only [ofRecord,
    Field.withDefault_of_required _ hSource,
    Field.withDefault_of_required _ hOperation, hMoment]
  rfl

end DetailsDraft

end CypherAssembly

------------------------------------------------------------
-- Used Records
------------------------------------------------------------

namespace CypherAssembly

namespace DetailsDraft

/- The source and the operation are not there any more. -/
theorem get?_used
    (fields : Record Value) :
    (used fields).get? "source" = none ∧
      (used fields).get? "operation" = none := by
  constructor
  · rw [used, Record.get?_erase_of_ne _ _ _ (by decide),
      Record.get?_erase_self]
  · exact Record.get?_erase_self _ _

/- All other fields still are. -/
theorem get?_used_of_ne
    (fields : Record Value)
    (name : String)
    (hSource : name ≠ "source")
    (hOperation : name ≠ "operation") :
    (used fields).get? name = fields.get? name := by
  rw [used, Record.get?_erase_of_ne _ _ _ hOperation,
    Record.get?_erase_of_ne _ _ _ hSource]

/- There is nothing more to take out. -/
theorem used_used
    (fields : Record Value) :
    used (used fields) = used fields := by
  rcases get?_used fields with ⟨hSource, hOperation⟩
  rw [used, Record.erase_of_get?_none _ _ hSource,
    Record.erase_of_get?_none _ _ hOperation]

variable {fields : Record Value}
variable {details : Details}

/- A record with a source does not stay as it is. -/
theorem used_ne_of_placed
    (hPlaced : ofPlaced fields = .ok details) :
    used fields ≠ fields := by
  intro hSame
  rcases Field.exists_of_required_ok
      (ofPlaced_ok hPlaced).1 with
    ⟨v, hSource, _⟩
  rw [← hSame, (get?_used fields).1] at hSource
  cases hSource

/- What is left of a record describes the moment alone. -/
theorem ofRecord_used
    (hPlaced : ofPlaced fields = .ok details) :
    ofRecord (used fields) =
      .ok { Details.unknown with moment := details.moment } := by
  rcases ofPlaced_ok hPlaced with ⟨_, _, hMoment, _⟩
  rcases get?_used fields with ⟨hSource, hOperation⟩
  have hSame : moment (used fields) = moment fields := by
    unfold moment
    rw [get?_used_of_ne fields "timestamp" (by decide)
      (by decide)]
  simp only [ofRecord, Field.withDefault, hSource, hOperation,
    hSame, hMoment]
  rfl

end DetailsDraft

end CypherAssembly

------------------------------------------------------------
-- Faults
------------------------------------------------------------

namespace CypherAssembly

namespace FaultDraft

/- A fault with a record of details. -/
def recorded
    (fields : Record Value)
    (kind : FaultKind)
    (message : Value) : FaultDraft :=
  .common kind message { record := some (.map fields) }

/- A fault with the same fields as checked details. -/
def placed
    (fields : Record Value)
    (kind : FaultKind)
    (message : Value) : FaultDraft :=
  .common kind message { placement := some (.map fields) }

/-
  Faults that are built one after the other with the same
  record, and what is left of it in the end.  Each of them
  finds what the one before it has left.
-/
def inTurn
    (fields : Record Value) :
    List (FaultKind × Value) →
      List (Except Refusal Fault) × Record Value
  | [] => ([], fields)
  | (kind, message) :: rest =>
      let draft := recorded fields kind message
      let others := inTurn (draft.left?.getD fields) rest
      (draft.build :: others.1, others.2)

/- A fault has the details that its record describes. -/
theorem build_recorded
    {fields : Record Value}
    {details : Details}
    (kind : FaultKind)
    (message : Value)
    (hDetails : DetailsDraft.ofRecord fields = .ok details) :
    (recorded fields kind message).build =
      .ok (.reported kind message.plain details) := by
  have hChosen :
      DetailsDraft.choose none (some fields) = .ok details := by
    rw [DetailsDraft.choose, DetailsDraft.orRefused, hDetails]
    rfl
  change (do
    let d ← DetailsDraft.choose none (some fields)
    return Fault.reported kind message.plain d) = _
  rw [hChosen]
  rfl

/- A fault that is placed has the details that were checked. -/
theorem build_placed
    {fields : Record Value}
    {details : Details}
    (kind : FaultKind)
    (message : Value)
    (hPlaced : DetailsDraft.ofPlaced fields = .ok details) :
    (placed fields kind message).build =
      .ok (.reported kind message.plain details) := by
  have hChecked :
      DetailsDraft.orRefused (DetailsDraft.ofPlaced fields) =
        .ok details := by
    rw [DetailsDraft.orRefused, hPlaced]
    rfl
  change (do
    let placed ← (do
      return some
        (← DetailsDraft.orRefused
          (DetailsDraft.ofPlaced fields)))
    let d ← DetailsDraft.choose placed none
    return Fault.reported kind message.plain d) = _
  rw [hChecked]
  rfl

/-
  The first fault is built with the record as it is given,
  and the others are built with what is left of it.
-/
theorem inTurn_cons
    (fields : Record Value)
    (first : FaultKind × Value)
    (rest : List (FaultKind × Value)) :
    inTurn fields (first :: rest) =
      let others := inTurn (DetailsDraft.used fields) rest
      ((recorded fields first.1 first.2).build :: others.1,
        others.2) := rfl

/- What is left of a record stays the same for all faults. -/
theorem inTurn_used
    {fields : Record Value}
    {details : Details}
    (given : List (FaultKind × Value))
    (hDetails :
      DetailsDraft.ofRecord (DetailsDraft.used fields) =
        .ok details) :
    inTurn (DetailsDraft.used fields) given =
      (given.map fun g =>
        .ok (.reported g.1 g.2.plain details),
        DetailsDraft.used fields) := by
  induction given with
  | nil => rfl
  | cons first rest ih =>
      rw [inTurn_cons, DetailsDraft.used_used, ih,
        build_recorded first.1 first.2 hDetails]
      rfl

/-
  The first fault knows what the record says, except for the
  placement, and the others only know the moment.
-/
theorem inTurn_of_placed
    {fields : Record Value}
    {details : Details}
    (first : FaultKind × Value)
    (rest : List (FaultKind × Value))
    (hPlaced : DetailsDraft.ofPlaced fields = .ok details) :
    inTurn fields (first :: rest) =
      (.ok (.reported first.1 first.2.plain
          { details with placement := none }) ::
        rest.map fun g =>
          .ok (.reported g.1 g.2.plain
            { Details.unknown with moment := details.moment }),
        DetailsDraft.used fields) := by
  have hFirst :=
    build_recorded first.1 first.2
      (DetailsDraft.ofRecord_of_placed hPlaced)
  have hRest :=
    inTurn_used rest (DetailsDraft.ofRecord_used hPlaced)
  rw [inTurn_cons, hFirst, hRest]

/-
  Details that can be placed are described by the fields of
  a record.  A fault that is placed has all of them.  Faults
  that are built one after the other with the record are not
  placed, only the first of them knows the source and the
  operation, and these are not in the record afterwards.  So
  the record says the same, and stays the same, if and only
  if there is no fault to build.
-/
theorem shared_record_is_used_up
    (fields : Record Value)
    (details : Details)
    (given : List (FaultKind × Value))
    (hPlaced : DetailsDraft.ofPlaced fields = .ok details) :
    let fault := fun (details : Details)
        (g : FaultKind × Value) =>
      (.ok (.reported g.1 g.2.plain details) :
        Except Refusal Fault)
    let own := given.map fun g => (placed fields g.1 g.2).build
    let shared := inTurn fields given
    own = given.map (fault details) ∧
      details.placement ≠ none ∧
      (∀ first rest,
        given = first :: rest →
          shared.1 =
              fault { details with placement := none } first ::
                rest.map
                  (fault
                    { Details.unknown with
                      moment := details.moment }) ∧
            shared.2 = DetailsDraft.used fields) ∧
      (shared.1 = own ↔ given = []) ∧
      (shared.2 = fields ↔ given = []) := by
  intro fault own shared
  have hOwn : own = given.map (fault details) :=
    List.map_congr_left fun g _ => build_placed g.1 g.2 hPlaced
  have hSome : details.placement ≠ none :=
    (DetailsDraft.ofPlaced_ok hPlaced).2.2.2
  have hShared :
      ∀ first rest,
        given = first :: rest →
          shared.1 =
              fault { details with placement := none } first ::
                rest.map
                  (fault
                    { Details.unknown with
                      moment := details.moment }) ∧
            shared.2 = DetailsDraft.used fields := by
    rintro first rest rfl
    exact Prod.ext_iff.mp (inTurn_of_placed first rest hPlaced)
  refine ⟨hOwn, hSome, hShared, ?_, ?_⟩
  · constructor
    · intro hSame
      cases given with
      | nil => rfl
      | cons first rest =>
          rw [(hShared first rest rfl).1, hOwn,
            List.map_cons] at hSame
          have hFirst := (List.cons.inj hSame).1
          simp only [fault, Except.ok.injEq,
            Fault.reported.injEq] at hFirst
          have hNone := congrArg Details.placement hFirst.2.2
          exact absurd hNone.symm hSome
    · rintro rfl
      rfl
  · constructor
    · intro hSame
      cases given with
      | nil => rfl
      | cons first rest =>
          rw [(hShared first rest rfl).2] at hSame
          exact
            absurd hSame (DetailsDraft.used_ne_of_placed hPlaced)
    · rintro rfl
      rfl

/-
  Three faults with one record: the first of them knows the
  source, and the clause is only left in the record.
-/
theorem details_of_three_faults :
    let fields : Record Value :=
      [("clause", .text "MATCH"), ("source", .text "planner"),
        ("item_index", .text "2"), ("operation", .text "plan")]
    let details : Details :=
      { source := "planner"
        operation := "plan"
        placement := some
          { clause := some "MATCH"
            position := some 2
            contentKind := none }
        moment := none }
    let given : List (FaultKind × Value) :=
      [(.emptyClause, .text "a"), (.renderFailed, .text "b"),
        (.finalized, .text "c")]
    DetailsDraft.ofPlaced fields = .ok details ∧
      inTurn fields given =
        ([.ok (.reported .emptyClause "a"
              { details with placement := none }),
            .ok (.reported .renderFailed "b" .unknown),
            .ok (.reported .finalized "c" .unknown)],
          [("clause", .text "MATCH"),
            ("item_index", .text "2")]) := by
  intro fields details given
  have hPlaced :
      DetailsDraft.ofPlaced fields = .ok details := by
    rfl
  rcases shared_record_is_used_up fields details given hPlaced
    with ⟨_, _, hShared, _, _⟩
  rcases hShared _ _ rfl with ⟨hFaults, hLeft⟩
  exact ⟨hPlaced, Prod.ext hFaults hLeft⟩

/-
  A fault that is described by a record does not know its
  clause, unlike one that is placed.  The record is not what
  it was, and the next fault does not know its source.
-/
theorem record_is_not_shared :
    let fields : Record Value :=
      [("source", .text "planner"), ("operation", .text "plan"),
        ("clause", .text "MATCH")]
    let shared :=
      inTurn fields
        [(.emptyClause, .text "a"), (.emptyClause, .text "a")]
    let details : Details :=
      .inClause "planner" "plan" "MATCH"
    (placed fields .emptyClause (.text "a")).build =
        .ok (.reported .emptyClause "a" details) ∧
      shared.1 =
        [.ok (.reported .emptyClause "a"
            { details with placement := none }),
          .ok (.reported .emptyClause "a" .unknown)] ∧
      details.placement ≠ none ∧
      details.source ≠ Details.unknown.source ∧
      shared.2 = [("clause", .text "MATCH")] := by
  refine ⟨rfl, rfl, ?_, ?_, rfl⟩
  · exact Option.some_ne_none _
  · decide

end FaultDraft

end CypherAssembly
