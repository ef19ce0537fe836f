import FeatureFlags.Proofs.Field.Checked
import FeatureFlags.Proofs.Field.Failures
import FeatureFlags.Proofs.Field.Issues
import FeatureFlags.Settings
import Mathlib.Data.List.DropRight

/-! What the readers of settings take from tables. White space around the name of an environment
does not count, and no table keeps the readers from answering.
-/

namespace FeatureFlags

-----------------------------------------------------------------------------------------
-- White space around a text
-----------------------------------------------------------------------------------------

namespace Unicode

variable {isSpace : Char → Bool} {text trimmed : List Char}

/-- The second text is what the first one has between the white space at its ends. -/
structure Trimmed (isSpace : Char → Bool) (text trimmed : List Char) : Prop where
  around
    : ∃ before after, text = before ++ trimmed ++ after
        ∧ (∀ c ∈ before, isSpace c = true) ∧ (∀ c ∈ after, isSpace c = true)
  first : ∀ c, trimmed.head? = some c → isSpace c = false
  last : ∀ c, trimmed.getLast? = some c → isSpace c = false

theorem dropWhile_spaces {before rest : List Char} (spaces : ∀ c ∈ before, isSpace c = true)
    (first : ∀ c, rest.head? = some c → isSpace c = false)
    : (before ++ rest).dropWhile isSpace = rest := by
  rw [List.dropWhile_append_of_pos spaces]
  cases rest with
  | nil => rfl
  | cons c rest => exact List.dropWhile_cons_of_neg (by simp [first c rfl])

theorem trimmed_trim (isSpace : Char → Bool) (text : List Char)
    : Trimmed isSpace text (trim isSpace text) := by
  have trim_eq : trim isSpace text = (text.dropWhile isSpace).rdropWhile isSpace := rfl
  have inner : trim isSpace text ++ (text.dropWhile isSpace).rtakeWhile isSpace
      = text.dropWhile isSpace := List.rdropWhile_append_rtakeWhile
  constructor
  · refine ⟨text.takeWhile isSpace, (text.dropWhile isSpace).rtakeWhile isSpace, ?_, ?_, ?_⟩
    · rw [List.append_assoc, inner, List.takeWhile_append_dropWhile]
    · exact fun c member => List.mem_takeWhile_imp member
    · exact fun c member => List.mem_rtakeWhile_imp member
  · intro c head
    have stop := List.head?_dropWhile_not isSpace text
    rw [← inner, List.head?_append, head] at stop
    exact stop
  · intro c last
    have nonempty : (text.dropWhile isSpace).rdropWhile isSpace ≠ [] := by
      intro empty
      rw [trim_eq, empty] at last
      contradiction
    have stop := List.rdropWhile_last_not isSpace (text.dropWhile isSpace) nonempty
    rw [trim_eq, List.getLast?_eq_some_getLast nonempty] at last
    rw [← Option.some.inj last]
    simpa using stop

/-- There is one way only to take white space from the ends of a text. -/
theorem trimmed_iff : Trimmed isSpace text trimmed ↔ trim isSpace text = trimmed := by
  constructor
  · rintro ⟨⟨before, after, rfl, spaces, spaces'⟩, first, last⟩
    rw [List.append_assoc]
    cases trimmed with
    | nil =>
        have nothing : (before ++ ([] ++ after)).dropWhile isSpace = [] := by
          rw [List.dropWhile_eq_nil_iff, List.nil_append]
          exact List.forall_mem_append.mpr ⟨spaces, spaces'⟩
        rw [trim, nothing]
        rfl
    | cons c rest =>
        have reversed : ∀ d ∈ after.reverse, isSpace d = true := by simpa using spaces'
        have behind : (before ++ (c :: rest ++ after)).dropWhile isSpace = c :: rest ++ after :=
          dropWhile_spaces spaces first
        rw [trim, behind, List.reverse_append,
          dropWhile_spaces reversed (by rwa [List.head?_reverse]), List.reverse_reverse]
  · rintro rfl
    exact trimmed_trim isSpace text

end Unicode

-----------------------------------------------------------------------------------------
-- Settings of the engine and of the program
-----------------------------------------------------------------------------------------

namespace EngineSettings

theorem readEnvironment_eq_ok {x : Datum} {environment : String}
    : readEnvironment x = .ok environment
      ↔ environment ≠ ""
        ∧ ∃ name, x = .text name
          ∧ Unicode.Trimmed Unicode.space.contains name.toList environment.toList := by
  simp only [Unicode.trimmed_iff]
  cases x with
  | text name =>
      rw [readEnvironment, Field.properText_text_eq_ok]
      constructor
      · rintro ⟨nonempty, rfl⟩
        exact ⟨nonempty, name, rfl, String.toList_ofList.symm⟩
      · rintro ⟨nonempty, _, ⟨⟩, same⟩
        rw [same, String.ofList_toList]
        exact ⟨nonempty, rfl⟩
  | _ => simp [readEnvironment, Field.properText, Field.text, Checked.refuseIf, Checked.issue]

/-- The fields of a table are read as those of the settings. -/
structure ReadFrom (entries : List (String × Datum)) (s : EngineSettings) : Prop where
  environment
    : Field.optional entries "default_environment" default.defaultEnvironment readEnvironment
      = .ok s.defaultEnvironment
  snapshotPath
    : Field.optional entries "snapshot_path" none (Field.nullable Field.text) = .ok s.snapshotPath
  rejectsStale
    : Field.optional entries "reject_stale_snapshots" true Field.boolean = .ok s.rejectsStale

theorem read_eq_ok {x : Datum} {s : EngineSettings}
    : read x = .ok s ↔ ∃ entries, x = .record entries ∧ ReadFrom entries s := by
  simp only [read, Field.record_eq_ok, Checked.seq_eq_ok, Checked.map_eq_ok]
  constructor
  · rintro ⟨entries, rfl, _, ⟨_, ⟨_, environment, rfl⟩, _, path, rfl⟩, _, stale, rfl⟩
    exact ⟨entries, rfl, environment, path, stale⟩
  · rintro ⟨entries, rfl, environment, path, stale⟩
    exact ⟨entries, rfl, _, ⟨_, ⟨_, environment, rfl⟩, _, path, rfl⟩, _, stale, rfl⟩

@[simp] theorem failure?_readEnvironment (x : Datum) : (readEnvironment x).failure? = none := by
  cases x <;> exact Field.failure?_properText _

@[simp] theorem failure?_read (x : Datum) : (read x).failure? = none := by
  cases x <;> simp [read, Field.record]

theorem issues_read (x : Datum) : (read x).IssuesSatisfy Field.AnyIssue := by
  have environment (x : Datum) : (readEnvironment x).IssuesSatisfy Field.AnyIssue := by
    cases x <;> exact Field.issues_properText _
  refine Field.issues_record _ (fun entries => ?_) x
  exact ((Field.issues_optional environment (fun _ => id) entries _).map _
    |>.seq (Field.issues_optional (Field.issues_nullable Field.issues_text) (fun _ => id) entries _)
    |>.seq (Field.issues_optional Field.issues_boolean (fun _ => id) entries _))

end EngineSettings

namespace RuntimeSettings

@[simp] theorem failure?_readLevel (x : Datum) : (readLevel x).failure? = none := by
  unfold readLevel
  split <;> rfl

@[simp] theorem failure?_read (x : Datum) : (read x).failure? = none := by
  have levels (x : Datum) : (Field.mapping Field.text x).failure? = none := by
    cases x <;> simp [Field.mapping]
  cases x <;> simp [read, Field.record, levels]

theorem issues_read (x : Datum) : (read x).IssuesSatisfy Field.AnyIssue := by
  have level (x : Datum) : (readLevel x).IssuesSatisfy Field.AnyIssue := by
    unfold readLevel
    split
    · exact .ok _
    · exact .issue trivial
  refine Field.issues_record _ (fun entries => ?_) x
  exact ((Field.issues_optional level (fun _ => id) entries _).map _
    |>.seq (Field.issues_optional Field.issues_boolean (fun _ => id) entries _)
    |>.seq (Field.issues_optional (Field.issues_nullable Field.issues_text) (fun _ => id) entries _)
    |>.seq (Field.issues_optional (Field.issues_nullable (Field.issues_mapping Field.issues_text))
      (fun _ => id) entries _))

end RuntimeSettings

namespace Settings

/-- The sections that mean nothing here. -/
def extraSections (entries : List (String × Datum)) : List (String × Datum) :=
  entries.filter fun e => e.1 != "runtime" && e.1 != "engine"

/-- The sections of a file are read as those of the settings. -/
structure ReadFrom (entries : List (String × Datum)) (s : Settings) : Prop where
  runtime : Field.optional entries "runtime" .default RuntimeSettings.read = .ok s.runtime
  engine : Field.optional entries "engine" .default EngineSettings.read = .ok s.engine
  extra : extraSections entries = s.extra

theorem read_eq_ok {entries : List (String × Datum)} {s : Settings}
    : read (.record entries) = .ok s ↔ ReadFrom entries s := by
  simp only [read, Field.record, Checked.seq_eq_ok, Checked.map_eq_ok]
  constructor
  · rintro ⟨_, ⟨_, runtime, rfl⟩, _, engine, rfl⟩
    exact ⟨runtime, engine, rfl⟩
  · rintro ⟨runtime, engine, extra⟩
    exact ⟨_, ⟨_, runtime, rfl⟩, _, engine, by rw [← extraSections, extra]⟩

theorem failure?_read (x : Datum) : (read x).failure? = none := by
  cases x <;> simp [read, Field.record]

/-- The issue lies in a section that the settings have. -/
def InSection (issue : Issue) : Prop :=
  ∃ name ∈ ["runtime", "engine"], issue.path.head? = some (.name name)

theorem issues_read (entries : List (String × Datum))
    : (read (.record entries)).IssuesSatisfy InSection := by
  have runtime (issue : Issue) (_ : Field.AnyIssue issue)
      : InSection (issue.under (.name "runtime")) :=
    ⟨"runtime", by simp, rfl⟩
  have engine (issue : Issue) (_ : Field.AnyIssue issue)
      : InSection (issue.under (.name "engine")) :=
    ⟨"engine", by simp, rfl⟩
  exact ((Field.issues_optional RuntimeSettings.issues_read runtime entries _).map _).seq
    (Field.issues_optional EngineSettings.issues_read engine entries _)

end Settings

end FeatureFlags
