import CypherAssembly.Logging.Entry
import CypherAssembly.Logging.Method
import CypherAssembly.Settings

/-
  Requests to a log.

  Key definitions include:
    * `LogRequest`
    * `LogRequest.entry`
    * `LogRequest.logged`
    * `LogRequest.namedLine?`
    * `LogRequest.examine`
    * `LogRequest.line?`

  A request that is serious enough leaves a line in the log.
  Requests can be refused, too: the names of their fields
  may be taken, or they ask for something that makes no
  sense.
-/

------------------------------------------------------------
-- Requests
------------------------------------------------------------

namespace CypherAssembly

/-
  A request with an argument and fields.  The argument of a
  request to log is an event, which should be a text; if it
  is null, there is none.
-/
structure LogRequest where
  method : LogMethod
  argument : Value
  fields : LogEntry := []

/-
  What is never left in an entry: the place and the time of
  logging, and the wish for a stack.
-/
def passingFields : List String :=
  ["timestamp", "filename", "lineno", "func_name",
    "stack_info"]

namespace LogRequest

/- The request without a field. -/
def erase
    (field : String)
    (r : LogRequest) : LogRequest :=
  { r with fields := Record.erase field r.fields }

/- The first of the given names that is a field. -/
def clash?
    (taken : List String)
    (r : LogRequest) : Option String :=
  taken.find? fun name => (Record.get? name r.fields).isSome

/- The request itself, if none of the names is a field. -/
def free
    (taken : List String)
    (r : LogRequest) : Except Refusal LogRequest :=
  match r.clash? taken with
  | some name => .error (.clash name)
  | none => .ok r

/- Any field clashes with a request that has none. -/
def withoutFields
    (r : LogRequest) : Except Refusal LogRequest :=
  r.free (List.map (·.1) r.fields)

end LogRequest

end CypherAssembly

------------------------------------------------------------
-- Entries
------------------------------------------------------------

namespace CypherAssembly

namespace LogRequest

/-
  The fields of a request.  A request with a traceback says
  so, unless it says something else about it.
-/
def fieldsWith
    (traceback : Bool)
    (r : LogRequest) : LogEntry :=
  if traceback then LogEntry.withTraceback r.fields
  else r.fields

/-
  What fields say about an event.  What is bound in the
  context may be said otherwise by the fields; the level may
  not.
-/
def said
    (context : LogEntry)
    (level : Value)
    (event : LogValue)
    (fields : LogEntry) : LogEntry :=
  let e := fields.foldl
    (fun e field => Record.put field.1 field.2 e) context
  let e :=
    if event.toValue.kind = .null then e
    else Record.put "event" event e
  Record.put "level" (.value level) e

/-
  An entry that says it was recorded elsewhere cannot be
  completed, unless it also says that it comes from here.
-/
def isRecordedElsewhere
    (e : LogEntry) : Bool :=
  let told := fun name =>
    ((Record.get? name e).map LogValue.toValue).getD .null
  (told "_record").kind != .null &&
    !(told "_from_structlog").isTrue

/- The entry of a request, with all that belongs to it. -/
def entry
    (e : LogEntry) : Except Refusal LogEntry :=
  if isRecordedElsewhere e then
    .error (.noMethod "__dict__")
  else
    .ok (passingFields.foldl
      (fun e name => Record.erase name e)
      (LogEntry.explain e))

end LogRequest

end CypherAssembly

------------------------------------------------------------
-- Lines
------------------------------------------------------------

namespace CypherAssembly

namespace LogRequest

/-
  The line of a request that is serious enough.  One more
  name is taken by then.
-/
def logged
    (context : LogEntry)
    (severity : Severity)
    (traceback : Bool)
    (event : LogValue)
    (r : LogRequest) : Except Refusal (Option LogEntry) := do
  let r ← r.free ["method_name"]
  let level := .text severity.word
  let e ← entry
    (said context level event (r.fieldsWith traceback))
  return some e

/- The line of a request to log an event. -/
def ownLine?
    (s : Settings)
    (context : LogEntry)
    (severity : Severity)
    (traceback : Bool)
    (r : LogRequest) : Except Refusal (Option LogEntry) := do
  let r ← r.free ["event", "self"]
  if severity.rank < s.severity.rank then
    return none
  else
    r.logged context severity traceback (.value r.argument)

/- The event among the fields, where the argument is none. -/
def namedEvent
    (r : LogRequest) : Except Refusal LogValue :=
  match Record.get? "event" r.fields with
  | some event => .ok event
  | none => .error (.missing "event")

/- The line of a request whose argument is a rank. -/
def rankedLine?
    (s : Settings)
    (context : LogEntry)
    (r : LogRequest) : Except Refusal (Option LogEntry) := do
  let r ← r.free ["level", "self"]
  let event ← r.namedEvent
  let level ← LogLevel.ofValue r.argument
  if level.isBelow s.severity then
    return none
  else
    let severity ← level.severity
    (r.erase "event").logged context severity false event

/- The names under which events can be written. -/
def writerNames : List String :=
  ["msg", "log", "debug", "info", "warn", "warning",
    "fatal", "failure", "err", "error", "critical",
    "exception"]

/- The level of events under a name. -/
def levelOf : Value → Value
  | .text "warn" => .text "warning"
  | .text "exception" => .text "error"
  | v => v

/- The entry of a request whose argument is a name. -/
def namedEntry
    (context : LogEntry)
    (event : LogValue)
    (fields : LogEntry)
    (r : LogRequest) : Except Refusal LogEntry :=
  let e := said context (levelOf r.argument) event fields
  match r.argument with
  | .text "exception" => entry (LogEntry.withTraceback e)
  | _ => entry e

/-
  A request to prepare one under a name, which takes an
  event and the map of its fields.
-/
def preparedLine?
    (context : LogEntry)
    (r : LogRequest) : Except Refusal (Option LogEntry) := do
  let event ← r.namedEvent
  let rest := (r.erase "event").erase "event_kw"
  let _ ← rest.withoutFields
  match Record.get? "event_kw" r.fields with
  | none => throw (.missing "event_kw")
  | some (.value (.map fields)) =>
      let fields :=
        fields.map fun field => (field.1, .value field.2)
      let _ ← r.namedEntry context event fields
      return none
  | some fields =>
      throw (.ofProblem (.notIterable fields.toValue.kind))

/- A name is bound to nothing, so none can be unbound. -/
def unbound
    (r : LogRequest) : Except Refusal (Option LogEntry) := do
  let r ← r.withoutFields
  if r.argument.isName then
    throw (.noSuchName r.argument)
  else
    throw (.noName r.argument.kind)

/- The fields that another log can be made with. -/
def logFields : List String :=
  ["wrapper_class", "processors", "context_class",
    "cache_logger_on_first_use", "initial_values",
    "logger_factory_args"]

/- A request for the member of a name in a table. -/
def memberOf
    (members : Record LogMethod)
    (r : LogRequest) : Except Refusal Unit := do
  let r ← r.withoutFields
  match r.argument with
  | .text name =>
      if (members.get? name).isNone then
        throw (.noMethod name)
  | v => throw (.noName v.kind)

/- A request about the log itself, which leaves no line. -/
def examine
    (r : LogRequest) : Except Refusal Unit := do
  match r.method with
  | .compare => do
      let _ ← r.withoutFields
  | .renew => do
      let others := r.fields.filter fun field =>
        !logFields.contains field.1
      let _ ← { r with fields := others }.withoutFields
  | .member => r.memberOf LogMethod.late
  | .ownMember => r.memberOf LogMethod.early
  | .write => do
      let r ← r.withoutFields
      if !r.argument.isText "" then
        throw (.noName r.argument.kind)
  | .parts => do
      let r ← r.withoutFields
      match r.argument with
      | .int _ => return ()
      | .bool _ => return ()
      | v => throw (.noName v.kind)
  | .takeOver => do
      let r ← r.withoutFields
      if r.argument.kind != .map then
        throw (.noMethod "items")
  | _ => throw (.surplus "argument")

/-
  The line of a request whose argument is a name.  The event
  is among the fields or missing, and the entry is complete
  before the name is looked up.  Under the name of something
  that is no writer, the written entry is its argument.
-/
def namedLine?
    (context : LogEntry)
    (r : LogRequest) : Except Refusal (Option LogEntry) := do
  let r ← r.free ["method_name", "self"]
  let event :=
    (Record.get? "event" r.fields).getD (.value .null)
  let e ← r.namedEntry context event (r.erase "event").fields
  match r.argument with
  | .text name =>
      if writerNames.contains name then
        return some e
      else
        match LogMethod.general.get? name with
        | some method =>
            let argument := .text "\x7b\x7d"
            examine { method, argument }
            return none
        | none => throw (.noMethod name)
  | v => throw (.noName v.kind)

/- The line that a request leaves in the log, if any. -/
def line?
    (s : Settings)
    (context : LogEntry)
    (r : LogRequest) : Except Refusal (Option LogEntry) := do
  match r.method with
  | .log severity traceback =>
      r.ownLine? s context severity traceback
  | .logRanked => r.rankedLine? s context
  | .logNamed => r.namedLine? context
  | .prepareNamed => r.preparedLine? context
  | .prepare => do
      let _ ← r.free ["event", "self"]
      return none
  | .prepareRanked => do
      let r ← r.free ["level", "self"]
      let _ ← r.namedEvent
      return none
  | .isEnabled => do
      let r ← r.withoutFields
      let _ ← LogLevel.ofValue r.argument
      return none
  | .lowestRank => throw (.surplus "level")
  | .bind => throw (.surplus "values")
  | .unbind => r.unbound
  | .tryUnbind => do
      let _ ← r.withoutFields
      return none
  | _ => do
      r.examine
      return none

end LogRequest

end CypherAssembly
