import Mathlib.Data.List.Basic
import CypherAssembly.Proofs.Settings.Normal
import CypherAssembly.Proofs.Settings.Referring

/-
  Values that are masked.

  Key definitions include:
    * `Sources.AgreesOutside`
    * `Sources.IsMasked`
    * `Sources.Masks`

  Key theorems include:
    * `Sources.find?_of_masked`
    * `Sources.find?_of_unspelled`
    * `Settings.load_of_masked`
    * `Settings.settings_are_normal_and_unmasked`

  What a source says about a setting does not matter where a
  source in front of it names the setting.  There is one way
  around this: another value in the file can refer to it.
-/

------------------------------------------------------------
-- Sources That Agree
------------------------------------------------------------

namespace CypherAssembly

namespace Sources

variable {hidden : String → Bool}
variable {s t : Sources}
variable {name : String}

/- The statements in the file, none if there is no file. -/
def statements
    (s : Sources) : List EnvFile.Statement :=
  EnvFile.statements (s.file.getD "")

/-
  The sources differ at most in the values that hidden names
  have in the environment and in the file.
-/
structure AgreesOutside
    (hidden : String → Bool)
    (s t : Sources) : Prop where
  arguments : s.arguments = t.arguments
  given : s.given = t.given
  rules : s.rules = t.rules
  environment :
    Record.outside hidden s.environment =
      Record.outside hidden t.environment
  statements :
    EnvFile.outside hidden s.statements =
      EnvFile.outside hidden t.statements

/-
  A setting is masked if it is named in front of all sources
  that differ.  The environment is in front of the file.
-/
def IsMasked
    (s t : Sources)
    (name : String) : Prop :=
  (s.arguments.get? name).isSome = true ∨
    (s.given? name).isSome = true ∨
    (s.environment = t.environment ∧
      (s.rules.find? name s.environmentEntries).isSome = true)

/- All settings are masked that hidden names are meant for. -/
def Masks
    (hidden : String → Bool)
    (s t : Sources) : Prop :=
  ∀ name ∈ Settings.names,
    (∃ other,
        hidden other = true ∧
          s.rules.key other =
            s.rules.key (s.rules.start ++ name)) →
      IsMasked s t name

/- One hidden name masks the one setting it is meant for. -/
theorem masks_of_one
    {spelling : String}
    (hOthers :
      ∀ other ∈ Settings.names,
        other ≠ name →
          s.rules.key spelling ≠
            s.rules.key (s.rules.start ++ other))
    (hMasked : IsMasked s t name) :
    Masks (fun other => other == spelling) s t := by
  rintro other hMem ⟨spelled, hHidden, hKey⟩
  rw [eq_of_beq hHidden] at hKey
  by_cases hSame : other = name
  · rw [hSame]
    exact hMasked
  · exact absurd hKey (hOthers other hMem hSame)

/- What is there is not looked for any further. -/
theorem orElse_of_isSome
    {A : Type}
    {first : Option A}
    (hSome : first.isSome = true)
    (others : Option A) :
    (first <|> others) = first := by
  cases first with
  | none => cases hSome
  | some a => rfl

/- The source that decides about a masked setting is there. -/
theorem find?_of_masked
    (hAgrees : AgreesOutside hidden s t)
    (hMasked : IsMasked s t name) :
    s.find? name = t.find? name := by
  have hGiven : s.given? name = t.given? name := by
    rw [given?, given?, hAgrees.given]
  rw [find?, find?, ← hAgrees.arguments, ← hGiven,
    ← hAgrees.rules]
  rcases hMasked with hSome | hSome | ⟨hSame, hSome⟩
  · rw [orElse_of_isSome hSome, orElse_of_isSome hSome]
  · rw [orElse_of_isSome hSome, orElse_of_isSome hSome]
  · have hEntries :
        s.environmentEntries = t.environmentEntries := by
      rw [environmentEntries, environmentEntries, hSame]
    rw [← hEntries, orElse_of_isSome hSome,
      orElse_of_isSome hSome]

/- What is seen of the environment is all that is seen. -/
theorem outside_environmentEntries
    (s : Sources) :
    Record.outside hidden s.environmentEntries =
      (Record.outside hidden s.environment).map fun entry =>
        (entry.1, some entry.2) := by
  rw [environmentEntries, Record.outside, List.filter_map]
  rfl

/-
  A setting that no hidden name is meant for is found where
  it was, unless something seen refers to a hidden name.
-/
theorem find?_of_unspelled
    (hAgrees : AgreesOutside hidden s t)
    (hAvoids : EnvFile.Avoids hidden s.statements)
    (hOther :
      ∀ other,
        hidden other = true →
          s.rules.key other ≠
            s.rules.key (s.rules.start ++ name)) :
    s.find? name = t.find? name := by
  have hGiven : s.given? name = t.given? name := by
    rw [given?, given?, hAgrees.given]
  have hEnvironment :
      s.rules.find? name s.environmentEntries =
        s.rules.find? name t.environmentEntries := by
    rw [← s.rules.find?_outside name hOther,
      outside_environmentEntries, hAgrees.environment,
      ← outside_environmentEntries,
      s.rules.find?_outside name hOther]
  have hAvoidsToo : EnvFile.Avoids hidden t.statements :=
    hAvoids.of_outside_eq hAgrees.statements.symm
  have hEntries :
      Record.outside hidden s.fileEntries =
        Record.outside hidden t.fileEntries := by
    have hStatements := hAgrees.statements
    unfold statements at hStatements
    rw [fileEntries, fileEntries,
      EnvFile.outside_entries _ _ hAvoids,
      EnvFile.outside_entries _ _ hAvoidsToo,
      hAgrees.environment, hStatements]
  have hFile :
      s.rules.find? name s.fileEntries =
        s.rules.find? name t.fileEntries := by
    rw [← s.rules.find?_outside name hOther, hEntries,
      s.rules.find?_outside name hOther]
  rw [find?, find?, ← hAgrees.arguments, ← hGiven,
    ← hAgrees.rules, hEnvironment, hFile]

end Sources

namespace Settings

/- Masked values change neither settings nor faults. -/
theorem load_of_masked
    {hidden : String → Bool}
    {s t : Sources}
    (hAgrees : s.AgreesOutside hidden t)
    (hMasks : s.Masks hidden t)
    (hAvoids : EnvFile.Avoids hidden s.statements) :
    load s = load t := by
  have hFields : s.fields names = t.fields names := by
    apply List.filterMap_congr
    intro name hMem
    have hFind : s.find? name = t.find? name := by
      by_cases hSpelled :
          ∃ other,
            hidden other = true ∧
              s.rules.key other =
                s.rules.key (s.rules.start ++ name)
      · exact
          Sources.find?_of_masked hAgrees
            (hMasks name hMem hSpelled)
      · apply Sources.find?_of_unspelled hAgrees hAvoids
        intro other hHidden hKey
        exact hSpelled ⟨other, hHidden, hKey⟩
    rw [hFind]
  rw [load, load, hFields]

/-
  Values that are given for settings alone can always be
  used.  Loading settings fails with a fault, or it gives one
  of five severities, the one that is spelled by the source
  that decides.  The loaded settings can be given to load
  them once more, whatever the environment and the file hold.
  And masked values do not matter, neither to the settings
  nor to the faults, unless a value of the file that is not
  masked itself refers to them.
-/
theorem settings_are_normal_and_unmasked
    (s : Sources) :
    (∀ given environment file,
      Sources.IsPlain given →
        Sources.ofParts given environment file =
          .ok { given, environment, file }) ∧
      ((∃ faults, faults ≠ [] ∧ load s = .error faults) ∨
        ∃ settings,
          load s = .ok settings ∧
            settings.severity.name ∈
              ["DEBUG", "INFO", "WARNING", "ERROR",
                "CRITICAL"] ∧
            ((s.find? "log_level" = none ∧
                settings.severity.name = "INFO") ∨
              ∃ text,
                s.find? "log_level" = some (.text text) ∧
                  settings.severity.name =
                    Capital.ofText text)) ∧
      (∀ settings,
        load s = .ok settings →
          ∀ environment file,
            ∃ again,
              Sources.ofParts settings.asGiven environment
                  file =
                .ok again ∧
                load again = .ok settings) ∧
      ∀ hidden t,
        s.AgreesOutside hidden t →
          s.Masks hidden t →
            EnvFile.Avoids hidden s.statements →
              load s = load t := by
  refine ⟨?_, ?_, ?_, ?_⟩
  · intro given environment file hPlain
    exact Sources.ofParts_of_plain hPlain environment file
  · cases hLoad : load s with
    | error faults =>
        left
        refine ⟨faults, ?_, rfl⟩
        rintro rfl
        exact load_isTelling s hLoad
    | ok settings =>
        right
        refine ⟨settings, rfl, ?_, ?_⟩
        · cases settings.severity <;> decide
        · rcases severity_of_load hLoad with
            ⟨hNone, hDefault⟩ | ⟨text, hText, hName⟩
          · exact Or.inl ⟨hNone, by rw [hDefault]; rfl⟩
          · exact Or.inr ⟨text, hText, hName.symm⟩
  · intro settings _ environment file
    exact
      ⟨_,
        Sources.ofParts_of_plain (isPlain_asGiven settings)
          environment file,
        load_asGiven settings environment file⟩
  · intro hidden t hAgrees hMasks hAvoids
    exact load_of_masked hAgrees hMasks hAvoids

/-
  The environment names the severity.  A line of the file
  that names it, too, and could not be read, can be left out.
-/
theorem severity_masked_by_environment :
    let hidden := fun name : String =>
      name == "CYPHER_BUILDER_LOG_LEVEL"
    let s : Sources :=
      { environment := [("cypher_builder_log_level", "debug")]
        file :=
          some
            ("CYPHER_BUILDER_LOG_LEVEL=LOUD\n" ++
              "CYPHER_BUILDER_LOG_JSON=1") }
    let t : Sources :=
      { s with file := some "CYPHER_BUILDER_LOG_JSON=1" }
    s.AgreesOutside hidden t ∧
      s.Masks hidden t ∧
      EnvFile.Avoids hidden s.statements ∧
      load s = load t ∧
      (load s).toOption =
        some
          { severity := .debug
            json := true } := by
  intro hidden s t
  have hStatements :
      s.statements =
        [{ name := "CYPHER_BUILDER_LOG_LEVEL"
           value := some "LOUD" },
          { name := "CYPHER_BUILDER_LOG_JSON"
            value := some "1" }] := by
    decide +kernel
  have hOthers :
      t.statements =
        [{ name := "CYPHER_BUILDER_LOG_JSON"
           value := some "1" }] := by
    decide +kernel
  have hAgrees : s.AgreesOutside hidden t :=
    { arguments := rfl
      given := rfl
      rules := rfl
      environment := rfl
      statements := by
        rw [hStatements, hOthers]
        decide }
  have hNamed : s.IsMasked t "log_level" :=
    Or.inr (Or.inr ⟨rfl, by decide +kernel⟩)
  have hMasks : s.Masks hidden t :=
    Sources.masks_of_one (by decide +kernel) hNamed
  have hAvoids : EnvFile.Avoids hidden s.statements := by
    rw [hStatements]
    decide
  rcases settings_are_normal_and_unmasked s with
    ⟨_, _, _, hMasked⟩
  have hSame := hMasked hidden t hAgrees hMasks hAvoids
  refine ⟨hAgrees, hMasks, hAvoids, hSame, ?_⟩
  rw [hSame]
  decide +kernel

/-
  The environment names one setting, and so does the file,
  where another setting refers to it.  There the value of
  the file counts, though it is masked.
-/
theorem masked_value_is_referred_to :
    let hidden := fun name : String =>
      name == "CYPHER_BUILDER_LOG_JSON"
    let sources := fun value : String =>
      ({ environment := [("CYPHER_BUILDER_LOG_JSON", "1")]
         file :=
          some
            ("CYPHER_BUILDER_LOG_JSON=" ++ value ++
              "\nCYPHER_BUILDER_LOG_COLORS=" ++
              "$\x7bCYPHER_BUILDER_LOG_JSON\x7d") } :
        Sources)
    (sources "0").AgreesOutside hidden (sources "1") ∧
      (sources "0").Masks hidden (sources "1") ∧
      (load (sources "0")).toOption =
        some
          { json := true
            colors := false } ∧
      (load (sources "1")).toOption =
        some
          { json := true
            colors := true } ∧
      load (sources "0") ≠ load (sources "1") := by
  intro hidden sources
  have hAgrees :
      (sources "0").AgreesOutside hidden (sources "1") :=
    { arguments := rfl
      given := rfl
      rules := rfl
      environment := rfl
      statements := by decide +kernel }
  have hNamed :
      (sources "0").IsMasked (sources "1") "log_json" :=
    Or.inr (Or.inr ⟨rfl, by decide +kernel⟩)
  have hMasks :
      (sources "0").Masks hidden (sources "1") :=
    Sources.masks_of_one (by decide +kernel) hNamed
  have hFirst :
      (load (sources "0")).toOption =
        some
          { json := true
            colors := false } := by
    decide +kernel
  have hSecond :
      (load (sources "1")).toOption =
        some
          { json := true
            colors := true } := by
    decide +kernel
  refine ⟨hAgrees, hMasks, hFirst, hSecond, ?_⟩
  intro hSame
  rw [hSame, hSecond] at hFirst
  cases hFirst

end Settings

end CypherAssembly
