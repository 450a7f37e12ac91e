import CypherAssembly.Proofs.Checked
import CypherAssembly.Proofs.Steps
import CypherAssembly.Settings

/-
  Settings that are loaded.

  Key definitions include:
    * `Checked.IsTelling`
    * `Sources.IsPlain`
    * `Settings.asGiven`

  Key theorems include:
    * `Sources.get?_fields`
    * `Settings.load_isTelling`
    * `Settings.severity_of_load`
    * `Sources.ofParts_of_plain`
    * `Settings.load_asGiven`

  Loading settings fails with at least one fault, or the
  severity is the one whose name the deciding source spells,
  in letters of any case.  Settings that are given as they
  were loaded are loaded once more, since nothing comes
  before the given values.
-/

------------------------------------------------------------
-- Fields
------------------------------------------------------------

namespace CypherAssembly

namespace Sources

theorem fields_cons
    (s : Sources)
    (first : String)
    (rest : List String) :
    s.fields (first :: rest) =
      match s.find? first with
      | some v => (first, v) :: s.fields rest
      | none => s.fields rest := by
  rw [fields, List.filterMap_cons]
  cases s.find? first <;> rfl

/- A field is there if some source names the setting. -/
theorem get?_fields
    (s : Sources)
    (names : List String)
    (name : String) :
    (s.fields names).get? name =
      if name ∈ names then s.find? name else none := by
  induction names with
  | nil => rfl
  | cons first rest ih =>
      rw [fields_cons]
      by_cases hSame : first = name
      · subst hSame
        cases hFind : s.find? first with
        | some v => simp [Record.get?]
        | none => simp [ih, hFind]
      · cases s.find? first with
        | some v =>
            simp [Record.get?, hSame, Ne.symm hSame, ih]
        | none => simp [Ne.symm hSame, ih]

end Sources

end CypherAssembly

------------------------------------------------------------
-- Loaded Settings
------------------------------------------------------------

namespace CypherAssembly

namespace Checked

variable {A B : Type}

/- Something is wrong where there is no result. -/
def IsTelling
    (x : Checked A) : Prop :=
  x ≠ .error []

theorem IsTelling.and
    {x : Checked A}
    {y : Checked B}
    (hFirst : x.IsTelling)
    (hSecond : y.IsTelling) :
    (x.and y).IsTelling := by
  intro hNothing
  cases x with
  | ok a =>
      cases y with
      | ok b => cases hNothing
      | error more =>
          cases hNothing
          exact hSecond rfl
  | error faults =>
      cases y with
      | ok b =>
          cases hNothing
          exact hFirst rfl
      | error more =>
          have hBoth : faults ++ more = [] :=
            Except.error.inj hNothing
          rw [(List.append_eq_nil_iff.mp hBoth).1] at hFirst
          exact hFirst rfl

theorem IsTelling.map
    {x : Checked A}
    (f : A → B)
    (hTelling : x.IsTelling) :
    IsTelling (Except.map f x) := by
  intro hNothing
  cases x with
  | ok a => cases hNothing
  | error faults =>
      cases hNothing
      exact hTelling rfl

end Checked

namespace Field

/- A severity is read from its name in any case. -/
theorem severity?_ok
    {v : Value}
    {l : Severity}
    (hOk : severity? v = .ok l) :
    ∃ text,
      v = .text text ∧ Capital.ofText text = l.name := by
  rcases exists_of_bind_ok hOk with ⟨text, hText, hOk⟩
  refine ⟨text, ?_, ?_⟩
  · cases v <;> cases hText
    rfl
  · split at hOk
    · rename_i found hFound
      cases hOk
      have hName := List.find?_some hFound
      exact (eq_of_beq hName).symm
    · cases hOk

theorem severity?_name
    (l : Severity) :
    severity? (.text l.name) = .ok l := by
  simp only [severity?, text?, bind, Except.bind,
    Severity.ofAnyCase?_name]

/- A field that cannot be read has a fault. -/
theorem isTelling_withDefault
    {A : Type}
    (field : String)
    (default : A)
    (read : Value → Except FieldProblem A)
    (fields : Record Value) :
    (withDefault field default read fields).IsTelling := by
  intro hNothing
  unfold withDefault at hNothing
  split at hNothing
  · cases hNothing
  · rename_i v _
    cases hRead : read v with
    | ok a =>
        rw [hRead] at hNothing
        cases hNothing
    | error problem =>
        rw [hRead] at hNothing
        cases hNothing

end Field

namespace Settings

/- Settings that are not loaded have a fault. -/
theorem load_isTelling
    (s : Sources) :
    (load s).IsTelling := by
  have hEach := fun {A : Type} (field : String)
      (default : A) (read : Value → Except FieldProblem A) =>
    Field.isTelling_withDefault field default read
      (s.fields names)
  exact
    ((hEach _ _ _).and
      ((hEach _ _ _).and
        ((hEach _ _ _).and (hEach _ _ _)))).map _

/-
  The severity is the one that the deciding source spells,
  or the default if there is no such source.
-/
theorem severity_of_load
    {s : Sources}
    {settings : Settings}
    (hOk : load s = .ok settings) :
    (s.find? "log_level" = none ∧ settings.severity = .info) ∨
      ∃ text,
        s.find? "log_level" = some (.text text) ∧
          Capital.ofText text = settings.severity.name := by
  rcases exists_of_map_ok hOk with ⟨r, hFields, rfl⟩
  rcases Checked.exists_of_and_ok hFields with ⟨hSeverity, _⟩
  rw [Field.withDefault, s.get?_fields, if_pos (by decide)]
    at hSeverity
  cases hFind : s.find? "log_level" with
  | none =>
      rw [hFind] at hSeverity
      exact Or.inl ⟨rfl, (Except.ok.inj hSeverity).symm⟩
  | some v =>
      right
      rw [hFind] at hSeverity
      rcases Field.severity?_ok
          (Field.exists_of_inField_ok hSeverity) with
        ⟨text, rfl, hName⟩
      exact ⟨text, rfl, hName⟩

end Settings

end CypherAssembly

------------------------------------------------------------
-- Given Settings
------------------------------------------------------------

namespace CypherAssembly

namespace Sources

/-
  Holds for values that are given for settings alone.  Rules
  and arguments have an underscore in front of their names.
-/
def IsPlain
    (given : Record Value) : Prop :=
  ∀ entry ∈ given, entry.1.toList.head? ≠ some '_'

theorem IsPlain.get?_eq_none
    {given : Record Value}
    {name : String}
    (hPlain : IsPlain given)
    (hRule : name.toList.head? = some '_') :
    given.get? name = none := by
  induction given with
  | nil => rfl
  | cons entry rest ih =>
      rcases List.forall_mem_cons.mp hPlain with
        ⟨hFirst, hRest⟩
      have hNe : entry.1 ≠ name := by
        rintro rfl
        exact hFirst hRule
      rw [Record.get?, if_neg hNe, ih hRest]

/-
  Such values, an environment and a file can always be used,
  by the rules that hold where a caller makes none.
-/
theorem ofParts_of_plain
    {given : Record Value}
    (hPlain : IsPlain given)
    (environment : Record String)
    (file : Option String) :
    ofParts given environment file =
      .ok { given, environment, file } := by
  have hNone :
      ∀ name : String,
        name.toList.head? = some '_' →
          given.get? name = none :=
    fun name hRule => hPlain.get?_eq_none hRule
  have hField :
      ∀ name,
        name.toList.head? = some '_' →
          SourceRules.field? name given = none := by
    intro name hRule
    rw [SourceRules.field?, hNone name hRule]
    rfl
  have hRules : SourceRules.ofFields given = .ok {} := by
    have hRequire :
        ∀ name isGood,
          name.toList.head? = some '_' →
            SourceRules.require name isGood given = .ok () := by
      intro name isGood hRule
      rw [SourceRules.require, hField name hRule]
      rfl
    rw [SourceRules.ofFields, hRequire _ _ rfl,
      hRequire _ _ rfl, SourceRules.startOf, hField _ rfl,
      SourceRules.flag, SourceRules.flag, hField _ rfl,
      hField _ rfl, hField _ rfl]
    rfl
  have hFile : decodeFile given file = .ok file := by
    unfold decodeFile
    rw [hNone "_env_file_encoding" rfl]
    cases file <;> rfl
  rw [ofParts, hRules, hFile, hNone "_cli_parse_args" rfl]
  rfl

end Sources

namespace Settings

/- The values of settings, given for their names. -/
def asGiven
    (settings : Settings) : Record Value :=
  [("log_level", .text settings.severity.name),
    ("log_json", .bool settings.json),
    ("log_colors", .bool settings.colors),
    ("logfire_enabled", .bool settings.forward)]

theorem isPlain_asGiven
    (settings : Settings) :
    Sources.IsPlain settings.asGiven := by
  simp [Sources.IsPlain, asGiven]

/- The fields of such settings are what is given. -/
theorem fields_asGiven
    (settings : Settings)
    (environment : Record String)
    (file : Option String) :
    Sources.fields
        { given := settings.asGiven, environment, file }
        names =
      settings.asGiven := by
  have hSmall :
      Small.ofText "log_level" = "log_level" ∧
        Small.ofText "log_json" = "log_json" ∧
        Small.ofText "log_colors" = "log_colors" ∧
        Small.ofText "logfire_enabled" = "logfire_enabled" := by
    decide
  rcases hSmall with ⟨hLevel, hJson, hColors, hForward⟩
  simp [Sources.fields, names, Sources.find?, Record.get?,
    Sources.given?, asGiven, hLevel, hJson, hColors, hForward]

/- Settings that are given are loaded, come what may. -/
theorem load_asGiven
    (settings : Settings)
    (environment : Record String)
    (file : Option String) :
    load { given := settings.asGiven, environment, file } =
      .ok settings := by
  rw [load, fields_asGiven]
  simp [ofFields, asGiven, Field.withDefault, Record.get?,
    Field.severity?_name, Field.flag?, Field.inField_ok,
    Checked.and, Except.map]

end Settings

end CypherAssembly
