import FeatureFlags.Proofs.Settings.Overrides

/-! Loading settings. What is loaded is determined by the file and by a variable. Else the file is refused,
except in two cases: the variable is to be written where there is no table, or an integer in the file has
too many digits to be read.
-/

namespace FeatureFlags

namespace Settings

variable {entries : List (String × Datum)} {vars : Variables} {s : Settings}

-----------------------------------------------------------------------------------------
-- Files
-----------------------------------------------------------------------------------------

/-- The tables from which settings are read: those in the file, or none at all if there is no file
and none was asked for.
-/
inductive Source (asked : Bool) : FileContent → List (String × Datum) → Prop
  | file {bytes : List Nat} {text : List Char} {entries : List (String × Datum)}
      (decoded : Utf8.decode bytes = .ok text) (tables : Toml.read text = .ok entries)
    : Source asked (.ok bytes) entries
  | absent {e : FileError} (missing : e ∈ [.notFound, .notDirectory]) (unasked : asked = false)
    : Source asked (.error e) []

/-- The fault that a file that was asked for is not there. -/
def missingFile (path : String) : Failure :=
  .fault (.of .configMissing ("config file not found: " ++ path) [("path", .text path)])

/-- The fault that a file is no TOML text, and what is wrong with it. -/
def malformed (path what : String) : Failure :=
  .fault (.of .configInvalid (path ++ ": " ++ what) [("path", .text path)])

/-- The fault that values in a file are wrong. -/
def invalid (path : String) (issues : List Issue) : Failure :=
  .fault (.of .configInvalid (path ++ ": " ++ toString issues.length ++ " invalid value(s)")
    [("path", .text path), ("errors", .list (issues.map Issue.datum))])

variable {path : String} {asked : Bool} {content : FileContent}

theorem readTables_of_decoded {bytes : List Nat} {text : List Char}
    (decoded : Utf8.decode bytes = .ok text)
    : readTables path asked (.ok bytes)
      = (Toml.read text).mapError (.ofUnread (malformed path)) := by
  simp only [readTables, Files.text, decoded]
  rfl

theorem readTables_of_absent {e : FileError} (missing : e ∈ [FileError.notFound, .notDirectory])
    : readTables path asked (.error e) = if asked then .error (missingFile path) else .ok [] := by
  simp only [List.mem_cons, List.not_mem_nil, or_false] at missing
  rcases missing with rfl | rfl <;> rfl

theorem Source.readTables_eq (source : Source asked content entries)
    : readTables path asked content = .ok entries := by
  cases source with
  | file decoded tables =>
      rw [readTables_of_decoded decoded, tables]
      rfl
  | absent missing unasked => rw [readTables_of_absent missing, unasked, if_neg Bool.false_ne_true]

/-- Tables are read from nowhere else. -/
theorem source_of_readTables (read : readTables path asked content = .ok entries)
    : Source asked content entries := by
  cases content with
  | error e =>
      by_cases missing : e ∈ [FileError.notFound, .notDirectory]
      · rw [readTables_of_absent missing] at read
        cases asked with
        | true => contradiction
        | false =>
            obtain rfl := Except.ok.inj read
            exact .absent missing rfl
      · cases e <;> simp_all [readTables, Files.text, Bind.bind, Except.bind]
  | ok bytes =>
      cases decoded : Utf8.decode bytes with
      | error fault => simp [readTables, Files.text, decoded, Bind.bind, Except.bind] at read
      | ok text =>
          rw [readTables_of_decoded decoded, Outcome.mapError_eq_ok] at read
          exact .file decoded read

theorem readTables_of_unread {bytes : List Nat} {text : List Char} {unread : Unread String}
    (decoded : Utf8.decode bytes = .ok text) (stopped : Toml.read text = .error unread)
    : readTables path asked (.ok bytes) = .error (.ofUnread (malformed path) unread) := by
  rw [readTables_of_decoded decoded, stopped]
  rfl

/-- Nothing is loaded if there are no tables. -/
theorem load_of_no_tables {e : Failure} (failed : readTables path asked content = .error e)
    : (load path asked vars content).result = .error e := by
  rw [load, Traced.result_bind, Traced.result_lift, failed]
  rfl

/-- What comes of tables when they are checked. -/
def verdict (path : String) (entries : List (String × Datum)) : Except Failure Settings :=
  match read (.record entries) with
  | .ok s => .ok s
  | .issues issues => .error (invalid path issues)
  | .failure e => .error e

theorem verdict_eq_ok : verdict path entries = .ok s ↔ ReadFrom entries s := by
  rw [← read_eq_ok, verdict]
  cases read (.record entries) <;> simp

/-- Tables are refused with issues that say where something is wrong. -/
theorem exists_issues_of_verdict {e : Failure} (refused : verdict path entries = .error e)
    : ∃ issues, issues ≠ [] ∧ (∀ issue ∈ issues, InSection issue) ∧ e = invalid path issues := by
  have silent := failure?_read (.record entries)
  have located := issues_read entries
  unfold verdict at refused
  cases outcome : read (.record entries) with
  | ok s => simp [outcome] at refused
  | failure e => simp [outcome, Checked.failure?] at silent
  | issues l =>
      obtain ⟨nonempty, each⟩ := located l outcome
      simp only [outcome, Except.error.injEq] at refused
      exact ⟨l, nonempty, each, refused.symm⟩

/-- The tables after an override, if there is one. -/
def overridden (vars : Variables) (entries : List (String × Datum))
    : Except Failure (List (String × Datum)) :=
  match Variables.proper vars.environment with
  | some environment => override environment entries
  | none => .ok entries

/-- Tables are checked after the override. -/
theorem load_of_source (source : Source asked content entries)
    : (load path asked vars content).result = overridden vars entries >>= verdict path := by
  rw [load, Traced.result_bind, Traced.result_lift, source.readTables_eq]
  change (Traced.lift (overridden vars entries) >>= _).result = _
  rw [Traced.result_bind, Traced.result_lift]
  congr 1
  funext others
  rw [verdict]
  cases read (.record others) <;> rfl

/-- What stands in the way of an override. -/
def Unwritable (vars : Variables) (entries : List (String × Datum)) (e : Failure) : Prop :=
  Variables.proper vars.environment ≠ none ∧ Barred entries e

/-- After an override the tables are read as the settings that they determine together with it, or
the override cannot be written.
-/
theorem overridden_cases (vars : Variables) (entries : List (String × Datum))
    : (∃ others, overridden vars entries = .ok others
        ∧ ∀ s, ReadFrom others s ↔ s.DeterminedBy vars entries)
      ∨ ∃ e, Unwritable vars entries e ∧ overridden vars entries = .error e := by
  cases chosen : Variables.proper vars.environment with
  | none =>
      refine .inl ⟨entries, ?_, fun s => readFrom_iff_of_unset chosen⟩
      rw [overridden, chosen]
  | some environment =>
      rw [overridden, chosen]
      rcases override_cases environment entries with ⟨table, engine, written⟩ | ⟨e, barred, failed⟩
      · exact .inl ⟨_, written, fun s => readFrom_putEntry_iff chosen engine⟩
      · exact .inr ⟨e, ⟨by simp [chosen], barred⟩, failed⟩

theorem Unwritable.overridden_eq {e : Failure} (unwritable : Unwritable vars entries e)
    : overridden vars entries = .error e := by
  obtain ⟨environment, set⟩ := Option.ne_none_iff_exists'.mp unwritable.1
  rw [overridden, set]
  exact unwritable.2.override_eq environment

theorem Barred.not_determinedBy {e : Failure} (barred : Barred entries e)
    : ¬ s.DeterminedBy vars entries := by
  rintro ⟨-, ⟨table, engine, -⟩, -⟩
  cases barred with
  | list found => cases engine <;> simp_all
  | single found noTable noList =>
      cases engine with
      | given table => exact noTable _ (Option.some.inj (found.symm.trans table))
      | missing absent => simp [absent] at found

theorem load_eq_ok_iff (source : Source asked content entries)
    : (load path asked vars content).result = .ok s ↔ s.DeterminedBy vars entries := by
  rw [load_of_source source]
  rcases overridden_cases vars entries with ⟨others, written, same⟩ | ⟨e, unwritable, failed⟩
  · rw [written, ← same]
    exact verdict_eq_ok
  · rw [failed]
    exact iff_of_false (by simp [Bind.bind, Except.bind]) unwritable.2.not_determinedBy

theorem load_eq_error {e : Failure} (source : Source asked content entries)
    (failed : (load path asked vars content).result = .error e)
    : Unwritable vars entries e
      ∨ ∃ issues, issues ≠ [] ∧ (∀ issue ∈ issues, InSection issue) ∧ e = invalid path issues := by
  rw [load_of_source source] at failed
  rcases Outcome.bind_eq_error.mp failed with unwritten | ⟨others, -, refused⟩
  · rcases overridden_cases vars entries with ⟨others, written, -⟩ | ⟨e', unwritable, failed⟩
    · simp [written] at unwritten
    · obtain rfl := Except.error.inj (failed.symm.trans unwritten)
      exact .inl unwritable
  · exact .inr (exists_issues_of_verdict refused)

/-- Variables decide nothing but the environment to be used by default. -/
theorem DeterminedBy.eq_but_environment {other : Variables} {s' : Settings}
    (first : s.DeterminedBy vars entries) (second : s'.DeterminedBy other entries)
    : s' = { s with
        engine := { s.engine with defaultEnvironment := s'.engine.defaultEnvironment } } := by
  obtain ⟨table, engine, fields⟩ := first.engine
  obtain ⟨_, engine', fields'⟩ := second.engine
  obtain rfl := engine.unique engine'
  have runtime := Checked.ok.inj (second.runtime.symm.trans first.runtime)
  have extra := second.extra.symm.trans first.extra
  have path := Checked.ok.inj (fields'.snapshotPath.symm.trans fields.snapshotPath)
  have stale := Checked.ok.inj (fields'.rejectsStale.symm.trans fields.rejectsStale)
  simp only [← runtime, ← extra, ← path, ← stale]

theorem asked_iff {requested : Option String}
    : (location requested vars).2 = true
      ↔ requested ≠ none ∨ Variables.proper vars.configPath ≠ none := by
  cases requested with
  | some path => simp [location]
  | none => cases chosen : Variables.proper vars.configPath <;> simp [location, chosen]

end Settings

/-- Settings are loaded as the file determines them, with the name of the environment that a
variable gives, or they are refused: because there is no file where one was asked for, because it is
no TOML text, or because of issues in its sections. Loading fails in another way only in two cases: an
integer in the text has too many digits, or an override meets something else than a table.
-/
theorem settingsLoadedOrRefused (requested : Option String)
    (path : String) (asked : Bool) (vars : Variables) (content : FileContent)
    : ((Settings.location requested vars).2 = true
        ↔ requested ≠ none ∨ Variables.proper vars.configPath ≠ none)
      ∧ (∀ e ∈ [FileError.notFound, .notDirectory],
          (Settings.load path true vars (.error e)).result = .error (Settings.missingFile path))
      ∧ (∀ bytes text what,
          Utf8.decode bytes = .ok text
          → Toml.read text = .error (.malformed what)
          → (Settings.load path asked vars (.ok bytes)).result
            = .error (Settings.malformed path what))
      ∧ (∀ bytes text count,
          Utf8.decode bytes = .ok text
          → Toml.read text = .error (.tooManyDigits count)
          → (Settings.load path asked vars (.ok bytes)).result
            = .error (.tooManyDigitsRead count))
      ∧ ∀ entries,
          Settings.Source asked content entries
          → (∀ s, (Settings.load path asked vars content).result = .ok s
                ↔ s.DeterminedBy vars entries)
            ∧ (∀ e, (Settings.load path asked vars content).result = .error e
                → Settings.Unwritable vars entries e
                  ∨ ∃ issues,
                      issues ≠ []
                      ∧ (∀ issue ∈ issues, Settings.InSection issue)
                      ∧ e = Settings.invalid path issues)
            ∧ (∀ e, Settings.Unwritable vars entries e
                → (Settings.load path asked vars content).result = .error e)
            ∧ ∀ other s s',
                (Settings.load path asked vars content).result = .ok s
                → (Settings.load path asked other content).result = .ok s'
                → s' = { s with
                    engine :=
                      { s.engine with defaultEnvironment := s'.engine.defaultEnvironment } } := by
  refine ⟨Settings.asked_iff, ?missing, ?malformed, ?overlong, ?tables⟩
  case missing => exact fun e missing =>
    Settings.load_of_no_tables (Settings.readTables_of_absent missing)
  case malformed => exact fun bytes text what decoded stopped =>
    Settings.load_of_no_tables (Settings.readTables_of_unread decoded stopped)
  case overlong => exact fun bytes text count decoded stopped =>
    Settings.load_of_no_tables (Settings.readTables_of_unread decoded stopped)
  case tables =>
    intro entries source
    refine ⟨fun s => Settings.load_eq_ok_iff source, fun e => Settings.load_eq_error source, ?_, ?_⟩
    · intro e unwritable
      rw [Settings.load_of_source source, unwritable.overridden_eq]
      rfl
    · intro other s s' first second
      have determined := (Settings.load_eq_ok_iff source).mp first
      exact determined.eq_but_environment ((Settings.load_eq_ok_iff source).mp second)

namespace Sample

/-- A file that has one entry only. -/
def oneEntry (name : String) (value : List Char) : List Nat :=
  (name.toList ++ " = ".toList ++ value ++ ['\n']).map Char.toNat

/-- The kinds of the values in a table. -/
def kinds (entries : List (String × Datum)) : List (String × String) :=
  entries.map fun e => (e.1, e.2.kindName)

/-- No variable but the one for the environment to be used by default. -/
def environmentOnly (name : String) : Variables := ⟨none, some name⟩

theorem exists_source (name : String) (value : List Char) (kind : String)
    (read
      : (Settings.readTables "" true (.ok (oneEntry name value))).toOption.map kinds
        = some [(name, kind)])
    : ∃ x, Settings.Source true (.ok (oneEntry name value)) [(name, x)] ∧ x.kindName = kind := by
  cases tables : Settings.readTables "" true (.ok (oneEntry name value)) with
  | error failure => simp [tables, Except.toOption] at read
  | ok entries =>
      rw [tables] at read
      obtain ⟨⟨n, x⟩, rfl, same⟩ := List.map_eq_singleton_iff.mp (Option.some.inj read)
      obtain ⟨sameName, sameKind⟩ := Prod.mk.inj same
      have source := Settings.source_of_readTables tables
      rw [show n = name from sameName] at source
      exact ⟨x, source, sameKind⟩

/-- Whether reading a file stops at an integer with so many digits. -/
def stopsAtDigits (bytes : List Nat) (count : Nat) : Bool :=
  match Utf8.decode bytes with
  | .error _ => false
  | .ok text =>
    match Toml.read text with
    | .error (.tooManyDigits n) => n == count
    | _ => false

theorem load_of_stopsAtDigits {bytes : List Nat} {count : Nat} (stops : stopsAtDigits bytes count = true)
    (path : String) (asked : Bool) (vars : Variables)
    : (Settings.load path asked vars (.ok bytes)).result = .error (.tooManyDigitsRead count) := by
  unfold stopsAtDigits at stops
  split at stops
  · contradiction
  · next text decoded =>
      split at stops
      · next n stopped =>
          obtain rfl : n = count := by simpa using stops
          exact Settings.load_of_no_tables (Settings.readTables_of_unread decoded stopped)
      · contradiction

/-- A number of 4301 digits, one more than are read. -/
def overlongNumber : List Char := List.replicate 4301 '1'

set_option maxRecDepth 30000 in
theorem stopsAtDigits_overlongNumber
    : stopsAtDigits (oneEntry "team" overlongNumber) 4301 = true := by
  decide +kernel

end Sample

/-- A file without the engine leaves everything to the variable and to what is usual. -/
theorem sample_override_is_trimmed
    : ∃ team,
        (Settings.load "c.toml" true (Sample.environmentOnly " canary\n")
            (.ok (Sample.oneEntry "team" "'web'".toList))).result
          = .ok ⟨.default, ⟨"canary", none, true⟩, [("team", .text team)]⟩ := by
  obtain ⟨x, source, kind⟩ := Sample.exists_source "team" "'web'".toList "str" (by decide +kernel)
  obtain ⟨team, rfl⟩ : ∃ team, x = .text team := by
    cases x <;> simp [Datum.kindName] at kind ⊢
  obtain ⟨-, -, -, -, tables⟩ :=
    settingsLoadedOrRefused none "c.toml" true
      (Sample.environmentOnly " canary\n") (.ok (Sample.oneEntry "team" "'web'".toList))
  have trimmed
      : Unicode.Trimmed Unicode.space.contains " canary\n".toList "canary".toList :=
    Unicode.trimmed_iff.mpr (by decide +kernel)
  have engine
      : EngineSettings.DeterminedBy (Sample.environmentOnly " canary\n") []
          ⟨"canary", none, true⟩ :=
    ⟨⟨_, .override rfl, trimmed⟩, by decide, rfl, rfl⟩
  exact ⟨team, ((tables _ source).1 _).mpr ⟨rfl, ⟨[], .missing rfl, engine⟩, rfl⟩⟩

/-- An override of the environment fails in files whose engine is no table, where there is an issue
without it. A section that means nothing here fails all the same if there is a number of too many digits
in it.
-/
theorem two_files_are_not_refused
    : (Settings.load "c.toml" true (Sample.environmentOnly "canary")
          (.ok (Sample.oneEntry "engine" "5".toList))).result
        = .error (.notTable "int")
      ∧ (Settings.load "c.toml" true (Sample.environmentOnly "canary")
          (.ok (Sample.oneEntry "engine" "[]".toList))).result
        = .error (.wrongKind "list indices must be integers or slices, not str")
      ∧ (Settings.load "c.toml" true ⟨none, none⟩ (.ok (Sample.oneEntry "engine" "5".toList))).result
        = .error (Settings.invalid "c.toml" [⟨.notRecord "EngineConfig", [.name "engine"]⟩])
      ∧ (Settings.load "c.toml" true ⟨none, none⟩
          (.ok (Sample.oneEntry "team" Sample.overlongNumber))).result
        = .error (.tooManyDigitsRead 4301) := by
  obtain ⟨x, number, kind⟩ := Sample.exists_source "engine" "5".toList "int" (by decide +kernel)
  obtain ⟨n, rfl⟩ : ∃ n, x = .int n := by
    cases x <;> simp [Datum.kindName] at kind ⊢
  obtain ⟨x, list, kind⟩ := Sample.exists_source "engine" "[]".toList "list" (by decide +kernel)
  obtain ⟨members, rfl⟩ : ∃ members, x = .list members := by
    cases x <;> simp [Datum.kindName] at kind ⊢
  refine ⟨?_, ?_, ?_, Sample.load_of_stopsAtDigits Sample.stopsAtDigits_overlongNumber ..⟩
  · rw [Settings.load_of_source number]
    rfl
  · rw [Settings.load_of_source list]
    rfl
  · rw [Settings.load_of_source number]
    rfl

end FeatureFlags
