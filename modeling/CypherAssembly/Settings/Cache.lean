import CypherAssembly.Settings

/-
  A cache for settings.

  Key definitions include:
    * `SettingsCache`
    * `SettingsCache.clear`
    * `SettingsCache.get`

  Settings are loaded when they are asked for the first
  time, and then kept.  Sources that cannot be loaded leave
  nothing behind.  Loads are numbered, so that one can tell
  whether two answers come from the same load.
-/

------------------------------------------------------------
-- Caches
------------------------------------------------------------

namespace CypherAssembly

/- Settings together with the number of their load. -/
structure LoadedSettings where
  load : Nat
  settings : Settings
deriving DecidableEq, Repr

/- The settings that are kept, and the loads so far. -/
structure SettingsCache where
  held : Option LoadedSettings := none
  loads : Nat := 0
deriving DecidableEq, Repr

namespace SettingsCache

/- Forget the settings. -/
def clear
    (c : SettingsCache) : SettingsCache :=
  { c with held := none }

/- The settings that are kept, or else those now loaded. -/
def get
    (c : SettingsCache)
    (s : Sources) : SettingsCache × Checked LoadedSettings :=
  match c.held with
  | some loaded => (c, .ok loaded)
  | none =>
      match Settings.load s with
      | .error faults => (c, .error faults)
      | .ok settings =>
          let loaded : LoadedSettings :=
            { load := c.loads + 1
              settings }
          ({ held := some loaded
             loads := c.loads + 1 },
            .ok loaded)

/- What is kept is given out whatever the sources hold. -/
theorem get_of_held
    (c : SettingsCache)
    (s : Sources)
    (loaded : LoadedSettings)
    (hHeld : c.held = some loaded) :
    c.get s = (c, .ok loaded) := by
  simp [get, hHeld]

end SettingsCache

end CypherAssembly
