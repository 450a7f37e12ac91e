import CypherAssembly.Field
import CypherAssembly.Settings.Arguments
import CypherAssembly.Settings.Encoding
import CypherAssembly.Settings.Reference
import CypherAssembly.Settings.Rules

/-
  Settings.

  Key definitions include:
    * `Settings`
    * `Sources`
    * `Sources.find?`
    * `Sources.ofParts`
    * `Settings.load`

  A setting is looked for in three sources: the values that
  a caller gives, the environment, and a file.  The first
  source that names it decides, whatever the others hold.
  Given names are compared without regard to case, and of
  several entries for one name, the first one counts.

  A caller can also give rules for the other two sources,
  and arguments, which come before everything else.
-/

------------------------------------------------------------
-- Settings
------------------------------------------------------------

namespace CypherAssembly

/-
  The least serious event that is logged, whether events are
  written as JSON, whether they are coloured, and whether
  they are forwarded to an observer.
-/
structure Settings where
  severity : Severity := .info
  json : Bool := false
  colors : Bool := true
  forward : Bool := false
deriving DecidableEq, Repr

end CypherAssembly

------------------------------------------------------------
-- Sources
------------------------------------------------------------

namespace CypherAssembly

/- Where settings come from, the first source first. -/
structure Sources where
  arguments : Record Value := []
  given : Record Value := []
  environment : Record String := []
  file : Option String := none
  rules : SourceRules := {}

namespace Sources

/- The given value for a name, in letters of any case. -/
def given?
    (s : Sources)
    (name : String) : Option Value :=
  (List.find? (fun entry => Small.ofText entry.1 == name)
    s.given).map (·.2)

/- The names in the environment with their values. -/
def environmentEntries
    (s : Sources) : Entries :=
  List.map (fun entry => (entry.1, some entry.2))
    s.environment

/- The names in the file, some of them without a value. -/
def fileEntries
    (s : Sources) : Entries :=
  EnvFile.entries s.environment (s.file.getD "")

/- A setting in the source that decides about it. -/
def find?
    (s : Sources)
    (name : String) : Option Value :=
  s.arguments.get? name <|>
    s.given? name <|>
    s.rules.find? name s.environmentEntries <|>
    s.rules.find? name s.fileEntries

/- The settings that are named anywhere, as fields. -/
def fields
    (s : Sources)
    (names : List String) : Record Value :=
  names.filterMap fun name =>
    (s.find? name).map fun v => (name, v)

/- The text of a file, read in the encoding that is given. -/
def decodeFile
    (given : Record Value)
    (file : Option String) :
    Except SourceProblem (Option String) :=
  match file with
  | none => .ok none
  | some text =>
      let encoding := given.get? "_env_file_encoding"
      (Encoding.read (encoding.getD .null) text).map some

/- The sources that a caller describes. -/
def ofParts
    (given : Record Value)
    (environment : Record String)
    (file : Option String) :
    Except SourceProblem Sources := do
  let rules ← SourceRules.ofFields given
  let file ← decodeFile given file
  let arguments ← ArgumentList.ofValue
    ((given.get? "_cli_parse_args").getD .null)
  return { arguments, given, environment, file, rules }

end Sources

end CypherAssembly

------------------------------------------------------------
-- Loading
------------------------------------------------------------

namespace CypherAssembly

namespace Settings

/- The names of the settings. -/
def names : List String :=
  ["log_level", "log_json", "log_colors", "logfire_enabled"]

/- Settings from their fields, all of which may be missing. -/
def ofFields
    (fields : Record Value) : Checked Settings :=
  let severity :=
    Field.withDefault "log_level" Severity.info
      Field.severity? fields
  let json :=
    Field.withDefault "log_json" false Field.flag? fields
  let colors :=
    Field.withDefault "log_colors" true Field.flag? fields
  let forward :=
    Field.withDefault "logfire_enabled" false Field.flag?
      fields
  (severity.and (json.and (colors.and forward))).map fun r =>
    { severity := r.1
      json := r.2.1
      colors := r.2.2.1
      forward := r.2.2.2 }

/- The settings that some sources add up to. -/
def load
    (s : Sources) : Checked Settings :=
  ofFields (s.fields names)

end Settings

end CypherAssembly
