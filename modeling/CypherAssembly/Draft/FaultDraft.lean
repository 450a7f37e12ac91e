import CypherAssembly.Refusal

/-
  Drafts of faults.

  Key definitions include:
    * `DetailsDraft`
    * `DetailsDraft.fields`
    * `DetailsDraft.placed?`
    * `DetailsDraft.ofRecord`
    * `ProblemKind`
    * `FaultDraft`
    * `FaultDraft.build`
    * `FaultDraft.left?`
    * `FaultDraft.buildBare`
    * `FaultDraft.wording`

  A caller describes a fault by its kind, its message and
  its details.  A message that is no text is written as one.
  Details come as a record, of which only the source, the
  operation and the moment are used, or as the checked
  fields of a placement, all of which are kept.  If both are
  given, the placement is used and the record is left alone.
-/

------------------------------------------------------------
-- Details
------------------------------------------------------------

namespace CypherAssembly

/- Details as a caller gives them. -/
structure DetailsDraft where
  record : Option Value := none
  placement : Option Value := none
deriving Repr

namespace DetailsDraft

/- The fields in a value that should be a map. -/
def fields : Value → Except Refusal (Record Value)
  | .map entries => .ok entries
  | .table entries => .ok (Value.namedEntries entries)
  | v => .error (.ofProblem (.notIterable v.kind))

/- The problem of an item that is no pair, at its place. -/
def notPair
    (place count : Nat) : Problem :=
  .badValue
    ("dictionary update sequence element #" ++
      Decimal.ofNat place ++ " has length " ++
      Decimal.ofNat count ++ "; 2 is required")

/- A name with a value, at its place among others. -/
def pair
    (item : Value × Nat) : Except Refusal (String × Value) :=
  match item.1.elements? with
  | none => .error (.ofProblem (.notIterable item.1.kind))
  | some [.text name, v] => .ok (name, v)
  | some [name, _] => .error (.noName name.kind)
  | some parts =>
      .error (.ofProblem (notPair item.2 parts.length))

/- The same for a record, which can consist of pairs. -/
def recordFields
    (v : Value) : Except Refusal (Record Value) :=
  match v.kind, v.elements? with
  | .map, _ => fields v
  | _, some items => do
      return Record.ofPairs (← items.zipIdx.mapM pair)
  | _, none => fields v

/- The moment among some fields, if there is one. -/
def moment
    (fields : Record Value) : Checked (Option Moment) :=
  match fields.get? "timestamp" with
  | none => .ok none
  | some v =>
      (Field.inField "timestamp" (Field.moment? v)).map some

/- Details without a placement, as far as they are known. -/
def ofRecord
    (fields : Record Value) : Checked Details :=
  let source :=
    Field.withDefault "source" "unknown" Field.text? fields
  let operation :=
    Field.withDefault "operation" "unknown" Field.text? fields
  (source.and (operation.and (moment fields))).map fun r =>
    { source := r.1
      operation := r.2.1
      placement := none
      moment := r.2.2 }

/- Where content stands, as far as it is known. -/
def placementOf
    (fields : Record Value) : Checked Placement :=
  let clause :=
    Field.withDefault "clause" none
      (Field.orNothing Field.text?) fields
  let position :=
    Field.withDefault "item_index" none
      (Field.orNothing Field.number?) fields
  let kind :=
    Field.withDefault "item_type" none
      (Field.orNothing Field.text?) fields
  (clause.and (position.and kind)).map fun r =>
    { clause := r.1
      position := r.2.1
      contentKind := r.2.2 }

/- Details with a placement. -/
def ofPlaced
    (fields : Record Value) : Checked Details :=
  let source := Field.required "source" Field.text? fields
  let operation :=
    Field.required "operation" Field.text? fields
  (source.and (operation.and
    ((moment fields).and (placementOf fields)))).map fun r =>
      { source := r.1
        operation := r.2.1
        placement := some r.2.2.2
        moment := r.2.2.1 }

/- What was checked, or the refusal of its faults. -/
def orRefused
    {A : Type}
    (result : Checked A) : Except Refusal A :=
  result.mapError .fields

/- The record of details, if it is given and to be used. -/
def record?
    (isUsed : Bool)
    (d : DetailsDraft) :
    Except Refusal (Option (Record Value)) :=
  match isUsed, d.record with
  | true, some v => (recordFields v).map some
  | _, _ => .ok none

/- The details with a placement, if there is one. -/
def placed?
    (d : DetailsDraft) : Except Refusal (Option Details) :=
  match d.placement with
  | none => .ok none
  | some v => do
      return some (← orRefused (ofPlaced (← fields v)))

/-
  The details with a placement, else those of a record, else
  details that nobody knows.
-/
def choose
    (placed : Option Details)
    (record : Option (Record Value)) :
    Except Refusal Details :=
  match placed, record with
  | some details, _ => .ok details
  | none, some fields => orRefused (ofRecord fields)
  | none, none => .ok .unknown

/-
  What is left of a record that was used: the source and the
  operation are taken out of it.
-/
def used
    (fields : Record Value) : Record Value :=
  (fields.erase "source").erase "operation"

end DetailsDraft

end CypherAssembly

------------------------------------------------------------
-- Faults
------------------------------------------------------------

namespace CypherAssembly

/- Problems that a caller describes in his own words. -/
inductive ProblemKind where
  | badValue
  | failure
deriving DecidableEq, Repr

/- The problem of a kind with a message. -/
def ProblemKind.problem
    (kind : ProblemKind)
    (message : String) : Problem :=
  match kind with
  | badValue => .badValue message
  | failure => .failure message

/- A fault as a caller describes it. -/
inductive FaultDraft where
  | problem
      (kind : ProblemKind)
      (message : Value)
      (details : DetailsDraft)
  | general
      (message : Value)
      (code : Value)
      (severity : Option Value)
      (details : DetailsDraft)
  | common
      (kind : FaultKind)
      (message : Value)
      (details : DetailsDraft)
  | composite
      (faults : List FaultDraft)
      (details : DetailsDraft)
deriving Repr

namespace FaultDraft

/- The code that a caller names by its digits. -/
def code : Value → Except Refusal Code
  | .text s =>
      match Code.ofDigits? s with
      | some c => .ok c
      | none => .error (.notMember "ErrorCode" (.text s))
  | v => .error (.notMember "ErrorCode" v)

/- The severity that a caller names in small letters. -/
def severity : Value → Except Refusal Severity
  | .text s =>
      match Severity.ofWord? s with
      | some l => .ok l
      | none => .error (.notMember "ErrorLevel" (.text s))
  | v => .error (.notMember "ErrorLevel" v)

/- The details that a draft was given, if any. -/
def details : FaultDraft → DetailsDraft
  | problem _ _ details => details
  | general _ _ _ details => details
  | common _ _ details => details
  | composite _ details => details

/- Holds for faults that make use of details. -/
def usesDetails : FaultDraft → Bool
  | problem _ _ _ => false
  | composite _ _ => false
  | _ => true

/-
  What is left of the caller's record when the fault is
  built.
-/
def left?
    (draft : FaultDraft) : Option (Record Value) := do
  let v ← draft.details.record
  let fields ← (DetailsDraft.recordFields v).toOption
  if draft.usesDetails && draft.details.placement.isNone
  then some (DetailsDraft.used fields)
  else some fields

end FaultDraft

mutual

/-
  The fault that a draft stands for, made with its record of
  details or without.  A record is read first of all, and a
  placement is checked next, whether it is used or not.
-/
def FaultDraft.make
    (isUsed : Bool) : FaultDraft → Except Refusal Fault
  | .problem kind message details => do
      let _ ← details.record? isUsed
      let _ ← details.placed?
      return .outside (kind.problem message.plain)
  | .general message code severity details => do
      let record ← details.record? isUsed
      let placed ← details.placed?
      let l ←
        match severity with
        | none => .ok Severity.error
        | some v => FaultDraft.severity v
      let c ← FaultDraft.code code
      let d ← DetailsDraft.choose placed record
      return .reported (.general c l) message.plain d
  | .common kind message details => do
      let record ← details.record? isUsed
      let placed ← details.placed?
      let d ← DetailsDraft.choose placed record
      return .reported kind message.plain d
  | .composite faults details => do
      let _ ← details.record? isUsed
      let _ ← details.placed?
      let built ← FaultDraft.makeAll faults
      return .composite built

/-
  The faults of several drafts, or the first refusal.  Their
  records are not used.
-/
def FaultDraft.makeAll :
    List FaultDraft → Except Refusal (List Fault)
  | [] => .ok []
  | draft :: rest => do
      let first ← FaultDraft.make false draft
      let others ← FaultDraft.makeAll rest
      return first :: others

end

namespace FaultDraft

/- The fault that a draft stands for. -/
def build
    (draft : FaultDraft) : Except Refusal Fault :=
  make true draft

/- The same fault for a reader who wants no details. -/
def buildBare
    (draft : FaultDraft) : Except Refusal Fault :=
  make false draft

/-
  The message of a fault as its caller gave it.  A bundle
  has its own message.
-/
def wording
    (draft : FaultDraft)
    (built : Fault) : Value :=
  match draft with
  | problem _ message _ => message
  | general message _ _ _ => message
  | common _ message _ => message
  | composite _ _ => .text built.message

end FaultDraft

end CypherAssembly
