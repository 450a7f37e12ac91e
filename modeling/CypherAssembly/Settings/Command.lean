import CypherAssembly.Settings.Cache

/-
  Commands to a cache for settings.

  Key definitions include:
    * `CachedSources`
    * `CachedSources.ask`
    * `CachedSources.Command`
    * `CachedSources.after`
    * `CachedSources.run`

  Key theorems include:
    * `CachedSources.run_append`

  Settings are asked for while their sources go on changing
  behind the cache.  The cache does not notice this.  It can
  be cleared, and the settings that are asked for next are
  loaded from the sources as they are by then.
-/

------------------------------------------------------------
-- Cached Sources
------------------------------------------------------------

namespace CypherAssembly

/- Sources of settings with a cache in front of them. -/
structure CachedSources where
  sources : Sources
  cache : SettingsCache := {}

namespace CachedSources

/- Sources that no settings were asked for from. -/
def fresh
    (s : Sources) : CachedSources :=
  { sources := s }

/- The settings that are kept, or else those now loaded. -/
def ask
    (c : CachedSources) :
    CachedSources × Checked LoadedSettings :=
  let answer := c.cache.get c.sources
  ({ c with cache := answer.1 }, answer.2)

end CachedSources

end CypherAssembly

------------------------------------------------------------
-- Carrying Commands Out
------------------------------------------------------------

namespace CypherAssembly

namespace CachedSources

/- What can happen to cached sources. -/
inductive Command where
  | change (sources : Sources)
  | clear
  | ask

/- The cached sources after a command. -/
def after
    (c : CachedSources) : Command → CachedSources
  | .change sources => { c with sources }
  | .clear => { c with cache := c.cache.clear }
  | .ask => c.ask.1

/- The cached sources after several commands. -/
def run
    (c : CachedSources)
    (commands : List Command) : CachedSources :=
  commands.foldl after c

/- A run starts with its first command. -/
theorem run_cons
    (c : CachedSources)
    (command : Command)
    (rest : List Command) :
    c.run (command :: rest) = (c.after command).run rest := rfl

/- Runs are carried out piece by piece. -/
theorem run_append
    (c : CachedSources)
    (first second : List Command) :
    c.run (first ++ second) = (c.run first).run second := by
  simp [run]

end CachedSources

end CypherAssembly
