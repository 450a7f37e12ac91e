import CypherAssembly.Settings

/-
  The way of an event into the log.

  Key definitions include:
    * `Stage`
    * `Settings.stages`

  An event passes a fixed line of stages, of which only the
  last two depend on the settings.  Events that are not
  serious enough never enter it.
-/

------------------------------------------------------------
-- Stages
------------------------------------------------------------

namespace CypherAssembly

/- What is done with an event, one thing after the other. -/
inductive Stage where
  | mergeContext
  | addLevel
  | addTime
  | addCallSite
  | explainError
  | addStack
  | addTraceback
  | forward
  | writeJson
  | writeConsole
deriving DecidableEq, Repr

/- The name of a stage. -/
def Stage.name : Stage → String
  | mergeContext => "merge_contextvars"
  | addLevel => "add_log_level"
  | addTime => "TimeStamper"
  | addCallSite => "CallsiteParameterAdder"
  | explainError => "add_error_context"
  | addStack => "StackInfoRenderer"
  | addTraceback => "set_exc_info"
  | forward => "LogfireProcessor"
  | writeJson => "JSONRenderer"
  | writeConsole => "ConsoleRenderer"

/- The stages that all events pass. -/
def Stage.common : List Stage :=
  [mergeContext, addLevel, addTime, addCallSite,
    explainError, addStack, addTraceback]

/-
  The stages for given settings.  Events are forwarded
  before they are written.
-/
def Settings.stages
    (s : Settings) : List Stage :=
  Stage.common ++
    (if s.forward then [.forward] else []) ++
    [if s.json then .writeJson else .writeConsole]

end CypherAssembly
