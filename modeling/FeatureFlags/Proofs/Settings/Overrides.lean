import FeatureFlags.Proofs.Outcome
import FeatureFlags.Proofs.Settings.Fields

/-! Settings that a file determines together with a variable, which overrides the environment to be used
by default. The variable is written into the tables of the file before they are checked, so it does not
meet a table in every file.
-/

namespace FeatureFlags

-----------------------------------------------------------------------------------------
-- Entries of tables
-----------------------------------------------------------------------------------------

namespace Datum

theorem lookup_putEntry (name : String) (x : Datum) (entries : List (String × Datum))
    : (putEntry name x entries).lookup name = some x := by
  induction entries with
  | nil => simp [putEntry]
  | cons entry rest ih =>
      obtain ⟨n, v⟩ := entry
      by_cases same : n = name
      · simp [putEntry, same]
      · have other : (name == n) = false := by simpa using Ne.symm same
        simp [putEntry, same, List.lookup_cons, other, ih]

theorem lookup_putEntry_of_ne {name other : String} (apart : other ≠ name) (x : Datum)
    (entries : List (String × Datum))
    : (putEntry name x entries).lookup other = entries.lookup other := by
  induction entries with
  | nil =>
      have different : (other == name) = false := by simpa using apart
      simp [putEntry, List.lookup_cons, different]
  | cons entry rest ih =>
      obtain ⟨n, v⟩ := entry
      by_cases same : n = name
      · subst same
        have different : (other == n) = false := by simpa using apart
        simp [putEntry, List.lookup_cons, different]
      · simp [putEntry, same, List.lookup_cons, ih]

end Datum

namespace Field

variable {α : Type} {default a : α} {read : Datum → Checked α}

theorem optional_putEntry_eq_ok {name : String} {x : Datum} {entries : List (String × Datum)}
    : optional (Datum.putEntry name x entries) name default read = .ok a ↔ read x = .ok a := by
  rw [optional, Datum.lookup_putEntry, Checked.under_eq_ok]

theorem optional_putEntry_of_ne {name other : String} (apart : other ≠ name) (x : Datum)
    (entries : List (String × Datum))
    : optional (Datum.putEntry name x entries) other default read
      = optional entries other default read := by
  rw [optional, Datum.lookup_putEntry_of_ne apart, optional]

end Field

namespace Settings

theorem extraSections_putEntry (x : Datum) (entries : List (String × Datum))
    : extraSections (Datum.putEntry "engine" x entries) = extraSections entries := by
  unfold extraSections
  induction entries with
  | nil => rfl
  | cons entry rest ih =>
      obtain ⟨n, v⟩ := entry
      by_cases same : n = "engine"
      · simp [Datum.putEntry, same]
      · simp [Datum.putEntry, same, List.filter_cons, ih]

end Settings

-----------------------------------------------------------------------------------------
-- The environment to be used by default
-----------------------------------------------------------------------------------------

namespace EngineSettings

/-- The name of the environment to be used by default, white space around it included: that of the
variable if it is not empty, else the one in the table, else the usual one.
-/
inductive Named (vars : Variables) (table : List (String × Datum)) : String → Prop
  | override {environment : String}
      (set : Variables.proper vars.environment = some environment)
    : Named vars table environment
  | file {name : String} (unset : Variables.proper vars.environment = none)
      (given : table.lookup "default_environment" = some (.text name))
    : Named vars table name
  | usual (unset : Variables.proper vars.environment = none)
      (absent : table.lookup "default_environment" = none)
    : Named vars table default.defaultEnvironment

/-- The settings are those that the table determines, up to the environment to be used by default,
which is named by the variable or the table. Its name is not empty without the white space around it.
-/
structure DeterminedBy (vars : Variables) (table : List (String × Datum)) (s : EngineSettings)
    : Prop where
  environment
    : ∃ name, Named vars table name
        ∧ Unicode.Trimmed Unicode.space.contains name.toList s.defaultEnvironment.toList
  nonempty : s.defaultEnvironment ≠ ""
  snapshotPath
    : Field.optional table "snapshot_path" none (Field.nullable Field.text) = .ok s.snapshotPath
  rejectsStale
    : Field.optional table "reject_stale_snapshots" true Field.boolean = .ok s.rejectsStale

variable {vars : Variables} {table : List (String × Datum)} {s : EngineSettings}

/-- Without an override the environment is read from the table. -/
theorem readFrom_iff_of_unset (unset : Variables.proper vars.environment = none)
    : ReadFrom table s ↔ DeterminedBy vars table s := by
  have usual : Unicode.trim Unicode.space.contains default.defaultEnvironment.toList
      = default.defaultEnvironment.toList := by decide +kernel
  constructor
  · rintro ⟨environment, path, stale⟩
    rcases Field.optional_eq_ok.mp environment with ⟨absent, same⟩ | ⟨x, given, read⟩
    · have named : Named vars table s.defaultEnvironment := same ▸ .usual unset absent
      refine ⟨⟨_, named, Unicode.trimmed_iff.mpr (same ▸ usual)⟩, same ▸ by decide, path, stale⟩
    · obtain ⟨nonempty, name, rfl, trimmed⟩ := readEnvironment_eq_ok.mp read
      exact ⟨⟨name, .file unset given, trimmed⟩, nonempty, path, stale⟩
  · rintro ⟨⟨name, named, trimmed⟩, nonempty, path, stale⟩
    refine ⟨Field.optional_eq_ok.mpr ?_, path, stale⟩
    cases named with
    | override set => simp [unset] at set
    | file _ given =>
        exact .inr ⟨_, given, readEnvironment_eq_ok.mpr ⟨nonempty, name, rfl, trimmed⟩⟩
    | usual _ absent =>
        have same := usual.symm.trans (Unicode.trimmed_iff.mp trimmed)
        exact .inl ⟨absent, String.toList_injective same⟩

/-- An override takes the place of what the table says about the environment. -/
theorem readFrom_putEntry_iff {environment : String}
    (set : Variables.proper vars.environment = some environment)
    : ReadFrom (Datum.putEntry "default_environment" (.text environment) table) s
      ↔ DeterminedBy vars table s := by
  constructor
  · rintro ⟨read, path, stale⟩
    rw [Field.optional_putEntry_of_ne (by decide)] at path stale
    obtain ⟨nonempty, _, ⟨⟩, trimmed⟩ :=
      readEnvironment_eq_ok.mp (Field.optional_putEntry_eq_ok.mp read)
    exact ⟨⟨_, .override set, trimmed⟩, nonempty, path, stale⟩
  · rintro ⟨⟨name, named, trimmed⟩, nonempty, path, stale⟩
    refine ⟨Field.optional_putEntry_eq_ok.mpr ?_, ?_, ?_⟩
    · cases named with
      | override given =>
          obtain rfl := Option.some.inj (set.symm.trans given)
          exact readEnvironment_eq_ok.mpr ⟨nonempty, _, rfl, trimmed⟩
      | file unset _ => simp [set] at unset
      | usual unset _ => simp [set] at unset
    · rwa [Field.optional_putEntry_of_ne (by decide)]
    · rwa [Field.optional_putEntry_of_ne (by decide)]

end EngineSettings

-----------------------------------------------------------------------------------------
-- The table of the engine
-----------------------------------------------------------------------------------------

namespace Settings

/-- The table of the engine, which is empty if it is missing. -/
inductive EngineTable (entries : List (String × Datum)) : List (String × Datum) → Prop
  | given {table : List (String × Datum)} (found : entries.lookup "engine" = some (.record table))
    : EngineTable entries table
  | missing (absent : entries.lookup "engine" = none) : EngineTable entries []

/-- There is an entry for the engine, but it is no table, so that an override cannot be written into
it. It fails in one of two ways.
-/
inductive Barred (entries : List (String × Datum)) : Failure → Prop
  | list {members : List Datum} (found : entries.lookup "engine" = some (.list members))
    : Barred entries (.wrongKind "list indices must be integers or slices, not str")
  | single {x : Datum} (found : entries.lookup "engine" = some x)
      (noTable : ∀ table, x ≠ .record table) (noList : ∀ members, x ≠ .list members)
    : Barred entries (.notTable x.fullKindName)

variable {entries : List (String × Datum)}

theorem EngineTable.unique {table other : List (String × Datum)} (first : EngineTable entries table)
    (second : EngineTable entries other)
    : table = other := by
  cases first <;> cases second <;> simp_all

/-- An override is written into the table of the engine, or it fails, by cases on the entry. -/
theorem override_cases (environment : String) (entries : List (String × Datum))
    : (∃ table, EngineTable entries table
        ∧ override environment entries
          = .ok (Datum.putEntry "engine"
              (.record (Datum.putEntry "default_environment" (.text environment) table)) entries))
      ∨ ∃ e, Barred entries e ∧ override environment entries = .error e := by
  unfold override
  cases found : entries.lookup "engine" with
  | none => exact .inl ⟨[], .missing found, rfl⟩
  | some x =>
      cases x with
      | record table => exact .inl ⟨table, .given found, rfl⟩
      | list members => exact .inr ⟨_, .list found, rfl⟩
      | _ => exact .inr ⟨_, .single found (by simp) (by simp), rfl⟩

theorem Barred.override_eq {e : Failure} (barred : Barred entries e) (environment : String)
    : override environment entries = .error e := by
  cases barred with
  | list found => simp [override, found]
  | single found noTable noList =>
      simp only [override, found, Option.getD_some]

-----------------------------------------------------------------------------------------
-- All settings
-----------------------------------------------------------------------------------------

/-- The settings are those that the tables of the file determine, with a name for the environment to
be used by default that a variable may give.
-/
structure DeterminedBy (vars : Variables) (entries : List (String × Datum)) (s : Settings)
    : Prop where
  runtime : Field.optional entries "runtime" .default RuntimeSettings.read = .ok s.runtime
  engine : ∃ table, EngineTable entries table ∧ s.engine.DeterminedBy vars table
  extra : extraSections entries = s.extra

variable {vars : Variables} {s : Settings}

/-- An empty table for the engine is as good as none. -/
theorem optional_engine_eq_ok {e : EngineSettings}
    : Field.optional entries "engine" .default EngineSettings.read = .ok e
      ↔ ∃ table, EngineTable entries table ∧ EngineSettings.ReadFrom table e := by
  have usual : EngineSettings.ReadFrom [] .default := ⟨rfl, rfl, rfl⟩
  rw [Field.optional_eq_ok]
  constructor
  · rintro (⟨absent, rfl⟩ | ⟨x, found, read⟩)
    · exact ⟨[], .missing absent, usual⟩
    · obtain ⟨table, rfl, fields⟩ := EngineSettings.read_eq_ok.mp read
      exact ⟨table, .given found, fields⟩
  · rintro ⟨table, engine, fields⟩
    cases engine with
    | given found => exact .inr ⟨_, found, EngineSettings.read_eq_ok.mpr ⟨table, rfl, fields⟩⟩
    | missing absent =>
        refine .inl ⟨absent, ?_⟩
        obtain ⟨environment, path, stale⟩ := fields
        cases e
        cases environment
        cases path
        cases stale
        rfl

theorem readFrom_iff_of_unset (unset : Variables.proper vars.environment = none)
    : ReadFrom entries s ↔ s.DeterminedBy vars entries := by
  constructor
  · rintro ⟨runtime, engine, extra⟩
    obtain ⟨table, found, fields⟩ := optional_engine_eq_ok.mp engine
    exact ⟨runtime, ⟨table, found, (EngineSettings.readFrom_iff_of_unset unset).mp fields⟩, extra⟩
  · rintro ⟨runtime, ⟨table, found, fields⟩, extra⟩
    refine ⟨runtime, optional_engine_eq_ok.mpr ?_, extra⟩
    exact ⟨table, found, (EngineSettings.readFrom_iff_of_unset unset).mpr fields⟩

/-- An override changes nothing but the environment to be used by default. -/
theorem readFrom_putEntry_iff {environment : String} {table : List (String × Datum)}
    (set : Variables.proper vars.environment = some environment)
    (engine : EngineTable entries table)
    : ReadFrom
          (Datum.putEntry "engine"
            (.record (Datum.putEntry "default_environment" (.text environment) table)) entries)
          s
      ↔ s.DeterminedBy vars entries := by
  constructor
  · rintro ⟨runtime, fields, extra⟩
    rw [Field.optional_putEntry_of_ne (by decide)] at runtime
    rw [extraSections_putEntry] at extra
    obtain ⟨_, ⟨⟩, fields⟩ := EngineSettings.read_eq_ok.mp (Field.optional_putEntry_eq_ok.mp fields)
    exact ⟨runtime, ⟨table, engine, (EngineSettings.readFrom_putEntry_iff set).mp fields⟩, extra⟩
  · rintro ⟨runtime, ⟨other, found, fields⟩, extra⟩
    obtain rfl := engine.unique found
    refine ⟨?_, Field.optional_putEntry_eq_ok.mpr (EngineSettings.read_eq_ok.mpr ?_), ?_⟩
    · rwa [Field.optional_putEntry_of_ne (by decide)]
    · exact ⟨_, rfl, (EngineSettings.readFrom_putEntry_iff set).mpr fields⟩
    · rwa [extraSections_putEntry]

end Settings

end FeatureFlags
