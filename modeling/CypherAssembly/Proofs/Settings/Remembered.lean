import Mathlib.Data.List.Induction
import CypherAssembly.Proofs.Steps
import CypherAssembly.Settings.Command

/-
  Settings that a cache remembers.

  Key definitions include:
    * `CachedSources.inPlace`
    * `CachedSources.Loads`
    * `CachedSources.LoadsFirst`
    * `CachedSources.answer`

  Key theorems include:
    * `CachedSources.exists_loadsFirst`
    * `CachedSources.held_of_no_load`
    * `CachedSources.answer_of_loadsFirst`
    * `CachedSources.answer_of_no_load`
    * `CachedSources.only_successes_are_remembered`

  What a cache answers is said here by what happened since
  it was cleared last, and not by what it holds.  If the
  settings were loaded since then, the first such load is
  the answer, whatever the sources are by now.  If they were
  not, the sources decide, and it is of no account how often
  they could not be loaded before.
-/

------------------------------------------------------------
-- Loads
------------------------------------------------------------

namespace CypherAssembly

namespace CachedSources

/- The sources that are in place after some commands. -/
def inPlace
    (start : Sources) : List Command → Sources
  | [] => start
  | .change sources :: rest => inPlace sources rest
  | _ :: rest => inPlace start rest

/-
  Holds if settings were asked for after the first commands,
  when they could be loaded, and the cache was not cleared
  by the commands from then on.
-/
def Loads
    (start : Sources)
    (commands first : List Command) : Prop :=
  ∃ rest,
    commands = first ++ .ask :: rest ∧ .clear ∉ rest ∧
      ∃ settings,
        Settings.load (inPlace start first) = .ok settings

/- The same for the first time since the cache was cleared. -/
def LoadsFirst
    (start : Sources)
    (commands first : List Command) : Prop :=
  Loads start commands first ∧
    ∀ earlier, ¬ Loads start first earlier

/- The answer to whoever asks after some commands. -/
def answer
    (start : Sources)
    (commands : List Command) : Checked LoadedSettings :=
  ((fresh start).run commands).ask.2

variable
  {start : Sources}
  {commands first earlier : List Command}

/- A load does not go away unless the cache is cleared. -/
theorem Loads.append
    (hLoads : Loads start commands first)
    {more : List Command}
    (hKept : .clear ∉ more) :
    Loads start (commands ++ more) first := by
  rcases hLoads with ⟨rest, rfl, hRest, hSome⟩
  refine ⟨rest ++ more, by simp, ?_, hSome⟩
  rw [List.mem_append, not_or]
  exact ⟨hRest, hKept⟩

/- So it is still one after a later load. -/
theorem Loads.trans
    (hFirst : Loads start commands first)
    (hEarlier : Loads start first earlier) :
    Loads start commands earlier := by
  rcases hFirst with ⟨rest, rfl, hRest, _⟩
  apply hEarlier.append
  rw [List.mem_cons, not_or]
  exact ⟨Command.noConfusion, hRest⟩

theorem Loads.length_lt
    (hLoads : Loads start commands first) :
    first.length < commands.length := by
  rcases hLoads with ⟨rest, rfl, _⟩
  rw [List.length_append, List.length_cons]
  omega

/- If there is a load at all, one of them is the first. -/
theorem exists_loadsFirst
    (hLoads : Loads start commands first) :
    ∃ first, LoadsFirst start commands first := by
  induction hLength : first.length using Nat.strongRecOn
    generalizing first with
  | ind n ih =>
      by_cases hEarlier : ∃ earlier, Loads start first earlier
      · rcases hEarlier with ⟨earlier, hEarlier⟩
        have hShorter : earlier.length < n := by
          rw [← hLength]
          exact hEarlier.length_lt
        exact ih _ hShorter (hLoads.trans hEarlier) rfl
      · exact ⟨first, hLoads, not_exists.mp hEarlier⟩

end CachedSources

end CypherAssembly

------------------------------------------------------------
-- What Is Held
------------------------------------------------------------

namespace CypherAssembly

namespace CachedSources

/-
  Whoever asks is given what is held.  If nothing is held,
  the sources are loaded.  This leaves nothing behind if it
  fails, and else settings with a number of their own.
-/
theorem ask_cases
    (c : CachedSources) :
    (∃ loaded,
      c.cache.held = some loaded ∧
        c.ask = (c, .ok loaded)) ∨
      (c.cache.held = none ∧
        ∃ faults,
          Settings.load c.sources = .error faults ∧
            c.ask = (c, .error faults)) ∨
      (c.cache.held = none ∧
        ∃ settings,
          Settings.load c.sources = .ok settings ∧
            let loaded : LoadedSettings :=
              { load := c.cache.loads + 1
                settings }
            c.ask =
              ({ c with
                  cache :=
                    { held := some loaded
                      loads := c.cache.loads + 1 } },
                .ok loaded)) := by
  cases hHeld : c.cache.held with
  | some loaded =>
      left
      refine ⟨loaded, rfl, ?_⟩
      rw [ask, c.cache.get_of_held c.sources loaded hHeld]
  | none =>
      right
      cases hLoad : Settings.load c.sources with
      | error faults =>
          left
          refine ⟨rfl, faults, rfl, ?_⟩
          simp only [ask, SettingsCache.get, hHeld, hLoad]
      | ok settings =>
          right
          refine ⟨rfl, settings, rfl, ?_⟩
          simp only [ask, SettingsCache.get, hHeld, hLoad]

theorem ask_of_held
    {c : CachedSources}
    {loaded : LoadedSettings}
    (hHeld : c.cache.held = some loaded) :
    c.ask = (c, .ok loaded) := by
  rw [ask, c.cache.get_of_held c.sources loaded hHeld]

/- If nothing is held, it is up to the sources. -/
theorem ask_of_not_held
    {c : CachedSources}
    (hHeld : c.cache.held = none) :
    c.ask.2 =
      (Settings.load c.sources).map fun settings =>
        { load := c.cache.loads + 1
          settings } := by
  rcases c.ask_cases with
    ⟨loaded, hSome, _⟩ | ⟨_, faults, hLoad, hAsk⟩ |
      ⟨_, settings, hLoad, hAsk⟩
  · rw [hHeld] at hSome
    cases hSome
  · rw [hAsk, hLoad]
    rfl
  · rw [hAsk, hLoad]
    rfl

/- What cannot be answered leaves everything as it was. -/
theorem ask_of_error
    {c : CachedSources}
    {faults : List FieldFault}
    (hError : c.ask.2 = .error faults) :
    c.ask.1 = c := by
  rcases c.ask_cases with
    ⟨_, _, hAsk⟩ | ⟨_, _, _, hAsk⟩ | ⟨_, _, _, hAsk⟩
  · rw [hAsk]
  · rw [hAsk]
  · rw [hAsk] at hError
    cases hError

/- What is answered is held from then on. -/
theorem held_of_ask
    {c : CachedSources}
    {loaded : LoadedSettings}
    (hOk : c.ask.2 = .ok loaded) :
    c.ask.1.cache.held = some loaded := by
  rcases c.ask_cases with
    ⟨_, hHeld, hAsk⟩ | ⟨_, _, _, hAsk⟩ | ⟨_, _, _, hAsk⟩
  · rw [hAsk] at hOk ⊢
    cases hOk
    exact hHeld
  · rw [hAsk] at hOk
    cases hOk
  · rw [hAsk] at hOk ⊢
    cases hOk
    rfl

/- Nothing but a change has an effect on the sources. -/
theorem sources_run
    (c : CachedSources)
    (commands : List Command) :
    (c.run commands).sources = inPlace c.sources commands := by
  induction commands generalizing c with
  | nil => rfl
  | cons command rest ih =>
      rw [run_cons, ih]
      cases command <;> rfl

/- What is held stays until the cache is cleared. -/
theorem cache_after_of_held
    {c : CachedSources}
    {loaded : LoadedSettings}
    (hHeld : c.cache.held = some loaded)
    {command : Command}
    (hKept : command ≠ .clear) :
    (c.after command).cache = c.cache := by
  cases command with
  | change sources => rfl
  | clear => exact absurd rfl hKept
  | ask => rw [after, ask_of_held hHeld]

theorem cache_run_of_held
    {c : CachedSources}
    {loaded : LoadedSettings}
    (hHeld : c.cache.held = some loaded)
    {commands : List Command}
    (hKept : .clear ∉ commands) :
    (c.run commands).cache = c.cache := by
  induction commands generalizing c with
  | nil => rfl
  | cons command rest ih =>
      rw [List.mem_cons, not_or] at hKept
      have hAfter :=
        cache_after_of_held hHeld (Ne.symm hKept.1)
      rw [run_cons, ih (by rw [hAfter, hHeld]) hKept.2,
        hAfter]

/-
  Nothing is held if there was no load.  The induction is on
  the commands from the last one backwards, up to the one
  that cleared the cache.
-/
theorem held_of_no_load
    {start : Sources}
    {commands : List Command}
    (hNone : ∀ first, ¬ Loads start commands first) :
    ((fresh start).run commands).cache.held = none := by
  induction commands using List.reverseRecOn with
  | nil => rfl
  | append_singleton before last ih =>
      rw [run_append]
      have hBefore :
          last ≠ .clear →
            ∀ first, ¬ Loads start before first := by
        intro hKept first hLoads
        exact
          hNone first
            (hLoads.append
              (by simpa using Ne.symm hKept))
      cases last with
      | clear => rfl
      | change sources => exact ih (hBefore Command.noConfusion)
      | ask =>
          have hHeld := ih (hBefore Command.noConfusion)
          rcases ((fresh start).run before).ask_cases with
            ⟨loaded, hSome, _⟩ | ⟨_, faults, _, hAsk⟩ |
              ⟨_, settings, hLoad, _⟩
          · rw [hHeld] at hSome
            cases hSome
          · change
              ((fresh start).run before).ask.1.cache.held =
                none
            rw [hAsk]
            exact hHeld
          · rw [sources_run] at hLoad
            exact
              absurd ⟨[], rfl, List.not_mem_nil, _, hLoad⟩
                (hNone before)

end CachedSources

end CypherAssembly

------------------------------------------------------------
-- Numbers of Loads
------------------------------------------------------------

namespace CypherAssembly

namespace CachedSources

/- What is held has one of the numbers given out so far. -/
def IsNumbered
    (c : CachedSources) : Prop :=
  ∀ loaded,
    c.cache.held = some loaded → loaded.load ≤ c.cache.loads

theorem isNumbered_after
    {c : CachedSources}
    (hNumbered : c.IsNumbered)
    (command : Command) :
    (c.after command).IsNumbered := by
  cases command with
  | change sources => exact hNumbered
  | clear =>
      intro loaded hHeld
      cases hHeld
  | ask =>
      rw [after]
      rcases c.ask_cases with
        ⟨_, _, hAsk⟩ | ⟨_, _, _, hAsk⟩ | ⟨_, _, _, hAsk⟩
      · rw [hAsk]
        exact hNumbered
      · rw [hAsk]
        exact hNumbered
      · rw [hAsk]
        intro loaded hHeld
        cases hHeld
        exact Nat.le_refl _

theorem isNumbered_run
    {c : CachedSources}
    (hNumbered : c.IsNumbered)
    (commands : List Command) :
    (c.run commands).IsNumbered := by
  induction commands generalizing c with
  | nil => exact hNumbered
  | cons command rest ih =>
      exact ih (isNumbered_after hNumbered command)

/- Numbers are only ever added. -/
theorem loads_le_after
    (c : CachedSources)
    (command : Command) :
    c.cache.loads ≤ (c.after command).cache.loads := by
  cases command with
  | change sources => exact Nat.le_refl _
  | clear => exact Nat.le_refl _
  | ask =>
      rw [after]
      rcases c.ask_cases with
        ⟨_, _, hAsk⟩ | ⟨_, _, _, hAsk⟩ | ⟨_, _, _, hAsk⟩
      · exact Nat.le_of_eq (by rw [hAsk])
      · exact Nat.le_of_eq (by rw [hAsk])
      · rw [hAsk]
        exact Nat.le_succ _

theorem loads_le_run
    (c : CachedSources)
    (commands : List Command) :
    c.cache.loads ≤ (c.run commands).cache.loads := by
  induction commands generalizing c with
  | nil => exact Nat.le_refl _
  | cons command rest ih =>
      exact Nat.le_trans (c.loads_le_after command) (ih _)

/- Each answer has a number that was given out by then. -/
theorem load_le_of_answer
    {start : Sources}
    {earlier : List Command}
    {loaded : LoadedSettings}
    (hAnswer : answer start earlier = .ok loaded)
    (rest : List Command) :
    loaded.load ≤
      ((fresh start).run
        (earlier ++ .ask :: rest)).cache.loads := by
  have hNumbered : ((fresh start).run earlier).IsNumbered := by
    apply isNumbered_run
    intro loaded hHeld
    cases hHeld
  rw [run_append, run_cons]
  refine Nat.le_trans ?_ (loads_le_run _ rest)
  rw [answer] at hAnswer
  rw [after]
  rcases ((fresh start).run earlier).ask_cases with
    ⟨other, hHeld, hAsk⟩ | ⟨_, _, _, hAsk⟩ | ⟨_, _, _, hAsk⟩
  · rw [hAsk] at hAnswer ⊢
    cases hAnswer
    exact hNumbered loaded hHeld
  · rw [hAsk] at hAnswer
    cases hAnswer
  · rw [hAsk] at hAnswer ⊢
    cases hAnswer
    exact Nat.le_refl _

end CachedSources

end CypherAssembly

------------------------------------------------------------
-- What Is Answered
------------------------------------------------------------

namespace CypherAssembly

namespace CachedSources

variable
  {start : Sources}
  {commands first : List Command}

/- If there was no load, the sources in place decide. -/
theorem answer_of_no_load
    (hNone : ∀ first, ¬ Loads start commands first) :
    answer start commands =
      (Settings.load (inPlace start commands)).map
        fun settings =>
          { load :=
              ((fresh start).run commands).cache.loads + 1
            settings } := by
  rw [answer, ask_of_not_held (held_of_no_load hNone),
    sources_run]
  rfl

/- It is the same for sources that are put in place then. -/
theorem answer_of_change
    (hNone : ∀ first, ¬ Loads start commands first)
    (sources : Sources) :
    answer start (commands ++ [.change sources]) =
      (Settings.load sources).map fun settings =>
        { load :=
            ((fresh start).run commands).cache.loads + 1
          settings } := by
  rw [answer, run_append]
  exact
    ask_of_not_held
      (c := ((fresh start).run commands).after
        (.change sources))
      (held_of_no_load hNone)

/-
  The first load is answered at once and from then on, until
  the cache is cleared.
-/
theorem answer_of_loadsFirst
    (hFirst : LoadsFirst start commands first) :
    ∃ loaded,
      answer start first = .ok loaded ∧
        answer start commands = .ok loaded ∧
        Settings.load (inPlace start first) =
          .ok loaded.settings := by
  rcases hFirst with
    ⟨⟨rest, rfl, hKept, settings, hLoad⟩, hNone⟩
  let loaded : LoadedSettings :=
    { load := ((fresh start).run first).cache.loads + 1
      settings }
  have hAnswer : answer start first = .ok loaded := by
    rw [answer_of_no_load hNone, hLoad]
    rfl
  refine ⟨loaded, hAnswer, ?_, hLoad⟩
  have hHeld := held_of_ask hAnswer
  have hCache := cache_run_of_held hHeld hKept
  rw [answer, run_append, run_cons, after,
    ask_of_held (hCache ▸ hHeld)]

/- Faults are answered where nothing was loaded or can be. -/
theorem answer_eq_error_iff
    (faults : List FieldFault) :
    answer start commands = .error faults ↔
      (∀ first, ¬ Loads start commands first) ∧
        Settings.load (inPlace start commands) =
          .error faults := by
  by_cases hSome : ∃ first, Loads start commands first
  · rcases hSome with ⟨first, hLoads⟩
    rcases exists_loadsFirst hLoads with ⟨_, hFirst⟩
    rcases answer_of_loadsFirst hFirst with
      ⟨loaded, _, hAnswer, _⟩
    rw [hAnswer]
    constructor
    · intro hError
      cases hError
    · rintro ⟨hNone, _⟩
      exact absurd hLoads (hNone first)
  · have hNone := not_exists.mp hSome
    rw [answer_of_no_load hNone]
    cases Settings.load (inPlace start commands) with
    | ok settings => simp [Except.map]
    | error others => simp [Except.map, hNone]

/- Settings are answered as the first load found them. -/
theorem exists_loadsFirst_of_answer
    {loaded : LoadedSettings}
    (hAnswer : answer start commands = .ok loaded) :
    ∃ first,
      LoadsFirst start (commands ++ [.ask]) first ∧
        answer start first = .ok loaded ∧
        Settings.load (inPlace start first) =
          .ok loaded.settings := by
  by_cases hSome : ∃ first, Loads start commands first
  · rcases hSome with ⟨_, hLoads⟩
    rcases exists_loadsFirst hLoads with ⟨first, hFirst⟩
    rcases answer_of_loadsFirst hFirst with
      ⟨other, hOther, hSame, hLoad⟩
    rw [hAnswer] at hSame
    cases hSame
    have hStays :
        LoadsFirst start (commands ++ [.ask]) first :=
      ⟨hFirst.1.append (by simp), hFirst.2⟩
    exact ⟨first, hStays, hOther, hLoad⟩
  · have hNone := not_exists.mp hSome
    have hLoad := answer_of_no_load hNone
    rw [hAnswer] at hLoad
    rcases exists_of_map_ok hLoad.symm with
      ⟨settings, hSettings, rfl⟩
    have hLoads :
        Loads start (commands ++ [.ask]) commands :=
      ⟨[], rfl, List.not_mem_nil, settings, hSettings⟩
    exact ⟨commands, ⟨hLoads, hNone⟩, hAnswer, hSettings⟩

/- The first load is not that of any answer before it. -/
theorem load_lt_of_loadsFirst
    (hFirst : LoadsFirst start commands first)
    {loaded other : LoadedSettings}
    (hAnswer : answer start first = .ok loaded)
    {earlier rest : List Command}
    (hEarlier : first = earlier ++ .ask :: rest)
    (hOther : answer start earlier = .ok other) :
    other.load < loaded.load := by
  rw [answer_of_no_load hFirst.2] at hAnswer
  rcases exists_of_map_ok hAnswer with ⟨settings, _, rfl⟩
  have hGiven := load_le_of_answer hOther rest
  rw [← hEarlier] at hGiven
  exact Nat.lt_succ_of_le hGiven

/-
  Whatever happened to the sources and the cache, whoever is
  given settings is given the very ones that were loaded
  first since the cache was cleared last, as the sources
  were by then, and nobody was given them before that load.
  Faults are given if and only if there was no such load and
  the sources in place cannot be loaded.  They leave nothing
  behind.  After sources are mended, settings are given, and
  they are those of the mended sources if none were loaded.
-/
theorem only_successes_are_remembered
    (start : Sources)
    (commands : List Command) :
    (∀ loaded,
      answer start commands = .ok loaded →
        ∃ first,
          LoadsFirst start (commands ++ [.ask]) first ∧
            answer start first = .ok loaded ∧
            Settings.load (inPlace start first) =
              .ok loaded.settings ∧
            ∀ earlier rest other,
              first = earlier ++ .ask :: rest →
                answer start earlier = .ok other →
                  other.load < loaded.load) ∧
      (∀ faults,
        answer start commands = .error faults ↔
          (∀ first, ¬ Loads start commands first) ∧
            Settings.load (inPlace start commands) =
              .error faults) ∧
      (∀ faults,
        answer start commands = .error faults →
          (fresh start).run (commands ++ [.ask]) =
            (fresh start).run commands) ∧
      ∀ mended settings,
        Settings.load mended = .ok settings →
          ∃ loaded,
            answer start (commands ++ [.change mended]) =
                .ok loaded ∧
              ((∀ first, ¬ Loads start commands first) →
                loaded.settings = settings) := by
  refine ⟨?_, answer_eq_error_iff, ?_, ?_⟩
  · intro loaded hAnswer
    rcases exists_loadsFirst_of_answer hAnswer with
      ⟨first, hFirst, hSame, hLoad⟩
    refine ⟨first, hFirst, hSame, hLoad, ?_⟩
    intro earlier rest other hEarlier hOther
    exact load_lt_of_loadsFirst hFirst hSame hEarlier hOther
  · intro faults hError
    rw [run_append]
    exact ask_of_error hError
  · intro mended settings hLoad
    have hSources :
        inPlace start (commands ++ [.change mended]) =
          mended := by
      refine (sources_run (fresh start) _).symm.trans ?_
      rw [run_append]
      rfl
    cases hAnswer :
        answer start (commands ++ [.change mended]) with
    | ok loaded =>
        refine ⟨loaded, rfl, ?_⟩
        intro hNone
        have hMended := answer_of_change hNone mended
        rw [hAnswer, hLoad] at hMended
        cases hMended
        rfl
    | error faults =>
        have hError :=
          ((answer_eq_error_iff faults).mp hAnswer).2
        rw [hSources, hLoad] at hError
        cases hError

/-
  Sources are mended, loaded and broken again.  What was
  loaded is still answered, until the cache is cleared.
-/
theorem answer_of_broken_again
    {broken mended : Sources}
    {faults : List FieldFault}
    {settings : Settings}
    (hBroken : Settings.load broken = .error faults)
    (hMended : Settings.load mended = .ok settings) :
    let commands : List Command :=
      [.ask, .change mended, .ask, .change broken]
    answer broken commands = .ok { load := 1, settings } ∧
      answer broken (commands ++ [.clear]) =
        .error faults := by
  constructor
  · simp [answer, run, after, ask, fresh,
      SettingsCache.get, hBroken, hMended]
  · simp [answer, run, after, ask, fresh,
      SettingsCache.get, SettingsCache.clear, hBroken, hMended]

/- So it is where there is no severity of the given name. -/
theorem answers_of_mended_sources :
    let broken : Sources :=
      { environment := [("CYPHER_BUILDER_LOG_LEVEL", "LOUD")] }
    let mended : Sources :=
      { environment := [("CYPHER_BUILDER_LOG_LEVEL", "debug")] }
    let commands : List Command :=
      [.ask, .change mended, .ask, .change broken]
    let loaded : LoadedSettings :=
      { load := 1
        settings := { severity := .debug } }
    answer broken commands = .ok loaded ∧
      (∃ first,
        LoadsFirst broken (commands ++ [.ask]) first ∧
          answer broken first = .ok loaded) ∧
      answer broken (commands ++ [.clear]) =
        .error
          [{ field := "log_level"
             problem := .notSeverity "LOUD" }] ∧
      ∃ other,
        answer broken
            (commands ++ [.clear] ++ [.change mended]) =
            .ok other ∧
          other.settings = loaded.settings := by
  intro broken mended commands loaded
  have hBroken :
      Settings.load broken =
        .error
          [{ field := "log_level"
             problem := .notSeverity "LOUD" }] := by
    decide +kernel
  have hMended :
      Settings.load mended = .ok { severity := .debug } := by
    decide +kernel
  rcases answer_of_broken_again hBroken hMended with
    ⟨hAnswer, hCleared⟩
  rcases only_successes_are_remembered broken commands with
    ⟨hReturned, _, _, _⟩
  rcases only_successes_are_remembered broken
      (commands ++ [.clear]) with
    ⟨_, _, _, hAgain⟩
  rcases hReturned loaded hAnswer with
    ⟨first, hFirst, hSame, _⟩
  rcases hAgain mended _ hMended with
    ⟨other, hOther, hSettings⟩
  have hNone := ((answer_eq_error_iff _).mp hCleared).1
  exact
    ⟨hAnswer, ⟨first, hFirst, hSame⟩, hCleared, other,
      hOther, hSettings hNone⟩

end CachedSources

end CypherAssembly
