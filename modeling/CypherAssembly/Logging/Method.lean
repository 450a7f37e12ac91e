import CypherAssembly.Refusal
import CypherAssembly.Severity
import CypherAssembly.Value.Amount

/-
  Ways to make a request to a log.

  Key definitions include:
    * `LogMethod`
    * `LogMethod.ofName`
    * `LogLevel`
    * `LogLevel.ofValue`
    * `LogLevel.severity`

  Most methods log an event with the severity that they are
  called like.  Two of them are told the severity with every
  request, by its rank or by a name.  The others only ask
  something about the log, or prepare a request that nobody
  makes.
-/

------------------------------------------------------------
-- Methods
------------------------------------------------------------

namespace CypherAssembly

/- What a request is made for. -/
inductive LogMethod where
  /- Log an event, with a traceback or without. -/
  | log (severity : Severity) (traceback : Bool)
  /- Log an event with the severity of a given rank. -/
  | logRanked
  /- Log an event under a given name, whatever its rank. -/
  | logNamed
  /- Prepare a request to log an event. -/
  | prepare
  /- Prepare a request to log an event of a given rank. -/
  | prepareRanked
  /- Prepare a request to log an event under a name. -/
  | prepareNamed
  /- Ask whether events of a given rank are logged. -/
  | isEnabled
  /- Ask for the lowest rank of events that are logged. -/
  | lowestRank
  /- Bind values to names. -/
  | bind
  /- Take the value from a name that is bound. -/
  | unbind
  /- Take the value from a name if it is bound. -/
  | tryUnbind
  /- Compare the log with something. -/
  | compare
  /- Make another log. -/
  | renew
  /- Ask for the member of a name. -/
  | member
  /- Ask for the member of a name, but not for any method. -/
  | ownMember
  /- Write the log in a given form. -/
  | write
  /- Ask for the parts of the log. -/
  | parts
  /- Take over the parts of a log. -/
  | takeOver
  /- Nothing that a request could be made to. -/
  | useless
deriving DecidableEq, Repr

namespace LogMethod

/- The methods that log events, by their names. -/
def logging : Record LogMethod :=
  [("debug", log .debug false),
    ("info", log .info false),
    ("msg", log .info false),
    ("warning", log .warning false),
    ("warn", log .warning false),
    ("error", log .error false),
    ("exception", log .error true),
    ("critical", log .critical false),
    ("fatal", log .critical false)]

/-
  The methods of the same names with an `a` in front only
  prepare a request.
-/
def preparing : Record LogMethod :=
  logging.map fun entry => ("a" ++ entry.1, prepare)

/- The other methods for events, by their names. -/
def others : Record LogMethod :=
  [("log", logRanked),
    ("alog", prepareRanked),
    ("_proxy_to_logger", logNamed),
    ("_process_event", prepareNamed),
    ("is_enabled_for", isEnabled),
    ("get_effective_level", lowestRank)]

/- The methods that a log has before it is made ready. -/
def binding : Record LogMethod :=
  [("bind", bind),
    ("new", bind),
    ("unbind", unbind),
    ("try_unbind", tryUnbind)]

/- The methods of anything that can be compared. -/
def comparing : Record LogMethod :=
  ["__eq__", "__ne__", "__lt__", "__le__", "__gt__",
    "__ge__", "__subclasshook__"].map fun name =>
      (name, compare)

/- Members of anything that take no argument. -/
def uselessMembers : Record LogMethod :=
  ["__dict__", "__doc__", "__module__", "__weakref__",
    "__dir__", "__getstate__", "__hash__",
    "__init_subclass__", "__new__", "__reduce__",
    "__repr__", "__setattr__", "__sizeof__",
    "__str__"].map fun name => (name, useless)

/- The members that everything has. -/
def general : Record LogMethod :=
  comparing ++ uselessMembers ++
    [("__class__", renew),
      ("__init__", renew),
      ("__getattribute__", ownMember),
      ("__delattr__", ownMember),
      ("__format__", write),
      ("__reduce_ex__", parts)]

/- Members of a log that are no methods. -/
def heldMembers : Record LogMethod :=
  ["_context", "_logger", "_processors"].map fun name =>
    (name, useless)

/- Useless members of a log before it is made ready. -/
def earlyMembers : Record LogMethod :=
  ["_wrapper_class", "_context_class", "_initial_values",
    "_cache_logger_on_first_use",
    "_logger_factory_args"].map fun name => (name, useless)

/- Useless members of a log after it was made ready. -/
def lateMembers : Record LogMethod :=
  ["__annotations__", "__deepcopy__"].map fun name =>
    (name, useless)

/- What is common to a log before and after that. -/
def common : Record LogMethod :=
  binding ++ general ++ heldMembers

/- What a log has before it is made ready. -/
def early : Record LogMethod :=
  common ++ earlyMembers ++
    [("__getattr__", member),
      ("__setstate__", takeOver)]

/- What a log has after it was made ready. -/
def late : Record LogMethod :=
  common ++ lateMembers ++ logging ++ preparing ++ others

/- The method of a name. -/
def ofName
    (name : String) : Except Refusal LogMethod :=
  match Record.get? name (early ++ late) with
  | some m => .ok m
  | none => .error (.noMethod name)

end LogMethod

end CypherAssembly

------------------------------------------------------------
-- Ranks
------------------------------------------------------------

namespace CypherAssembly

/- A rank that a caller gives, and the value it is given by. -/
structure LogLevel where
  given : Value
  rank : Amount
deriving Repr

namespace LogLevel

/- A rank has to be a number. -/
def ofValue
    (v : Value) : Except Refusal LogLevel :=
  match v.amount? with
  | some rank => .ok { given := v, rank }
  | none =>
      .error (.ofProblem (.notOrdered
        { first := v.kind
          second := .int }))

/- Holds for ranks below the one of a severity. -/
def isBelow
    (l : LogLevel)
    (lowest : Severity) : Bool :=
  l.rank.isBelow (.whole lowest.rank)

/- The severity that has exactly this rank. -/
def severity
    (l : LogLevel) : Except Refusal Severity :=
  match Severity.all.find? fun s =>
      l.rank.place.same (.point s.rank 0) with
  | some s => .ok s
  | none => .error (.noSuchName l.given)

end LogLevel

end CypherAssembly
