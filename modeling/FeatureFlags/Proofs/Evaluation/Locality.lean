import FeatureFlags.Proofs.Evaluation.TypeSoundness

/-! Evaluation is local. A decision about a flag depends on the flag, on its state in the
environment, on the segments that rules of the state name, and on the attributes that these rules
and segments test. Of everything else only the version of the snapshot shows in a decision, and only
as that version.
-/

namespace FeatureFlags

-----------------------------------------------------------------------------------------
-- Versions
-----------------------------------------------------------------------------------------

/-- The same decision, from a snapshot of another version. -/
def Decision.withVersion (d : Decision) (version : Int) : Decision :=
  { d with snapshotVersion := some version }

/-- The same flags, states and segments under another version. -/
def Snapshot.withVersion (s : Snapshot) (version : Int) : Snapshot := { s with version }

namespace Evaluation

variable (s : Snapshot) (flag : Flag) (state : FlagState) (context : Context) (version : Int)

theorem bySelection_withVersion (selected : Option Rule.Selection)
    : bySelection (s.withVersion version) flag state context selected
      = (bySelection s flag state context selected).withVersion version := by
  cases selected with
  | some selection => rfl
  | none =>
      unfold bySelection byDefault
      cases state.percentage with
      | none => rfl
      | some p =>
          dsimp only
          cases p.includes flag.key context.entityId <;> rfl

theorem byState_withVersion
    : (byState (s.withVersion version) flag state context).result
      = (byState s flag state context).result.map (·.withVersion version) := by
  rw [byState_result, byState_result]
  cases state.enabled with
  | false => rfl
  | true =>
      simp only [if_true, Snapshot.withVersion]
      cases (Rule.select flag.key context s.segments state.rules.rules).result with
      | error e => rfl
      | ok selected => exact congrArg Except.ok (bySelection_withVersion ..)

theorem resolve_withVersion (now : Moment)
    : (resolve (s.withVersion version) flag state context now).result
      = (resolve s flag state context now).result.map (·.withVersion version) := by
  unfold resolve
  cases state.killSwitch with
  | true => rfl
  | false =>
      cases held : state.effective now with
      | error e => rfl
      | ok holding =>
          simp only [Bool.false_eq_true, if_false, Traced.lift_ok_bind]
          exact byState_withVersion ..

theorem guarded_withVersion (flagKey environment : String) (d : Decision)
    : (guarded (s.withVersion version) flagKey environment flag context
          (d.withVersion version)).result
      = (guarded s flagKey environment flag context d).result.map (·.withVersion version) := by
  rw [guarded_result, guarded_result]
  change Except.ok (if flag.accepts d.value then d.withVersion version else _) = _
  cases flag.accepts d.value <;> rfl

/-- Under another version a snapshot gives the same decisions, with this version in them. -/
theorem evaluate_withVersion (flagKey environment : String) (fallback : Datum) (now : Moment)
    : (evaluate (some (s.withVersion version)) flagKey environment context fallback now).result
      = (evaluate (some s) flagKey environment context fallback now).result.map
          (·.withVersion version) := by
  cases flagFound : s.flags.get? flagKey with
  | none =>
      rw [evaluate_of_missing (Or.inl flagFound),
        evaluate_of_missing (s := s.withVersion version) (Or.inl flagFound)]
      rfl
  | some flag =>
      cases stateFound : s.states.get? (flagKey, environment) with
      | none =>
          rw [evaluate_of_missing (Or.inr stateFound),
            evaluate_of_missing (s := s.withVersion version) (Or.inr stateFound)]
          rfl
      | some state =>
          rw [evaluate_of_found flagFound stateFound,
            evaluate_of_found (s := s.withVersion version) flagFound stateFound,
            Traced.result_bind, Traced.result_bind, resolve_withVersion]
          cases (resolve s flag state context now).result with
          | error e => rfl
          | ok d => exact guarded_withVersion ..

/-- A decision carries the version of the snapshot from which it was made. -/
theorem snapshotVersion_of_evaluate {snapshot : Option Snapshot} {flagKey environment : String}
    {context : Context} {fallback : Datum} {now : Moment} {d : Decision}
    (decided : (evaluate snapshot flagKey environment context fallback now).result = .ok d)
    : d.snapshotVersion = snapshot.map Snapshot.version := by
  cases snapshot with
  | none => exact congrArg Decision.snapshotVersion (Except.ok.inj decided).symm
  | some s =>
      have versioned := evaluate_withVersion s context s.version flagKey environment fallback now
      change (evaluate (some s) flagKey environment context fallback now).result = _ at versioned
      rw [decided] at versioned
      exact congrArg Decision.snapshotVersion (Except.ok.inj versioned)

end Evaluation

-----------------------------------------------------------------------------------------
-- Locality
-----------------------------------------------------------------------------------------

/-- Evaluation is local. Let an accepted snapshot agree with another one on a flag, on its state in
an environment and on the segments that rules of the state name, committed or planned, and let two
contexts have the same id and agree on the attributes that these rules and segments test. At every
moment with an offset both snapshots decide about the flag, and the decisions differ in nothing but
the version of the snapshot. The fallbacks need not be the same where the flag and its state exist.
-/
theorem decisionsAreLocal {s s' : Snapshot} (accepted : s.Accepted)
    {flagKey environment : String} (agree : s.AgreeAbout flagKey environment s')
    {context context' : Context} (alike : context.AgreeOn (s.Tests flagKey environment) context')
    {fallback fallback' : Datum}
    (served
      : s.flags.get? flagKey = none ∨ s.states.get? (flagKey, environment) = none
        → fallback = fallback')
    (now : AwareMoment)
    : ∃ d,
        (evaluate (some s) flagKey environment context fallback now.toMoment).result = .ok d
        ∧ d.snapshotVersion = some s.version
        ∧ (evaluate (some s') flagKey environment context' fallback' now.toMoment).result
            = .ok { d with snapshotVersion := some s'.version } := by
  obtain ⟨d, decided⟩ :=
    accepted.coherent.evaluate_answers flagKey environment context fallback now
  have versioned {t t' : Snapshot} {c : Context} {default : Datum}
      (known
        : (evaluate (some t) flagKey environment c default now.toMoment).result = .ok d)
      (same : t' = t.withVersion t'.version)
      : (evaluate (some t') flagKey environment c default now.toMoment).result
        = .ok (d.withVersion t'.version) := by
    rw [same, Evaluation.evaluate_withVersion, known]
    rfl
  -- With its own version in place of the other one, a snapshot is what it was.
  have own : d = d.withVersion s.version :=
    Except.ok.inj (decided.symm.trans (versioned decided rfl))
  have sameVersion
      : (evaluate (some (s'.withVersion s.version)) flagKey environment context' fallback'
          now.toMoment).result = .ok d := by
    have agree' : s.AgreeAbout flagKey environment (s'.withVersion s.version) :=
      ⟨agree.flag, agree.state, agree.segments⟩
    have version : s.version = (s'.withVersion s.version).version := rfl
    rw [← decided, Evaluation.evaluate_congr version agree' alike served now.toMoment]
  exact ⟨d, decided, congrArg Decision.snapshotVersion own, versioned sameVersion rfl⟩

namespace Sample

/-- Everyone with an address of the house. -/
def staff : Segment :=
  ⟨"staff", "", "", ∅, ∅, [[⟨"mail", .endsWith, some (.text "@example.org")⟩]]⟩

/-- The rule for those of the staff alone. -/
def staffRule : Rule := { rule with segments := ["staff"] }

def staffState : FlagState := { state with rules := ⟨[staffRule], List.pairwise_singleton _ _⟩ }

theorem exists_staff_built
    : ∃ s, (Snapshot.build (.int 1) [flag] [(("theme", "production"), staffState)] [staff]).result
        = .ok s :=
  Outcome.exists_of_isOk (by decide +kernel)

/-- Another flag. -/
def layout : Flag := { flag with key := "layout" }

/-- Another segment. -/
def guests : Segment := { staff with key := "guests" }

/-- The states of both flags in two environments. -/
def states : List ((String × String) × FlagState) :=
  [(("layout", "production"), { state with killSwitch := true }), (("theme", "staging"), state),
    (("theme", "production"), staffState)]

theorem exists_larger_built
    : ∃ s, (Snapshot.build (.int 7) [layout, flag] states [guests, staff]).result = .ok s :=
  Outcome.exists_of_isOk (by decide +kernel)

/-- Someone of the staff who is on the plan. -/
def colleague : Context :=
  ⟨"user", .ofList [("plan", .text "pro"), ("mail", .text "user@example.org")]⟩

/-- The same one with an attribute that nothing tests. -/
def located : Context :=
  ⟨"user", .ofList [("country", .text "NL"), ("mail", .text "user@example.org"),
    ("plan", .text "pro")]⟩

theorem staffState_names {key : String} (names : staffState.Names key) : key = "staff" := by
  obtain ⟨r, member, names⟩ := names
  obtain rfl : r = staffRule := List.mem_singleton.mp member
  simpa [Rule.Names, staffRule, rule] using names

/-- The rule tests the plan, and the segment that it names tests the address. -/
theorem staffState_tests {segments : SegmentMap} (found : segments.get? "staff" = some staff)
    {name : String} (tests : staffState.Tests segments name)
    : name = "plan" ∨ name = "mail" := by
  obtain ⟨r, member, tests⟩ := tests
  obtain rfl : r = staffRule := List.mem_singleton.mp member
  cases tests with
  | byCondition condition tested =>
      obtain rfl := List.mem_singleton.mp condition
      exact Or.inl tested.symm
  | bySegment named stored tested =>
      obtain rfl := staffState_names ⟨staffRule, List.mem_singleton_self _, named⟩
      obtain rfl := Option.some.inj (found.symm.trans stored)
      obtain ⟨conditions, among, c, condition, tested⟩ := tested
      obtain rfl := List.mem_singleton.mp among
      obtain rfl := List.mem_singleton.mp condition
      exact Or.inr tested.symm

end Sample

/-- A snapshot with more in it decides about the flag as before, for someone about whom more is
known.
-/
theorem sample_decision_is_local
    : ∃ s s' d,
        (Snapshot.build (.int 1) [Sample.flag] [(("theme", "production"), Sample.staffState)]
            [Sample.staff]).result = .ok s
          ∧ (Snapshot.build (.int 7) [Sample.layout, Sample.flag] Sample.states
              [Sample.guests, Sample.staff]).result = .ok s'
          ∧ (evaluate (some s) "theme" "production" Sample.colleague .null
              Sample.yearBefore.toMoment).result = .ok d
          ∧ (evaluate (some s') "theme" "production" Sample.located (.text "light")
              Sample.yearBefore.toMoment).result
              = .ok { d with snapshotVersion := some s'.version } := by
  obtain ⟨s, built⟩ := Sample.exists_staff_built
  obtain ⟨s', built'⟩ := Sample.exists_larger_built
  obtain ⟨-, -, parts⟩ := (Snapshot.build_eq_ok_iff ..).mp built
  obtain ⟨-, -, parts'⟩ := (Snapshot.build_eq_ok_iff ..).mp built'
  have flagFound : s.flags.get? "theme" = some Sample.flag :=
    parts.flag_found List.mem_cons_self
  have flagFound' : s'.flags.get? "theme" = some Sample.flag :=
    parts'.flag_found (List.mem_cons_of_mem _ List.mem_cons_self)
  have stateFound : s.states.get? ("theme", "production") = some Sample.staffState :=
    parts.state_found List.mem_cons_self
  have stateFound' : s'.states.get? ("theme", "production") = some Sample.staffState :=
    parts'.state_found (by simp [Sample.states])
  have staffFound : s.segments.get? "staff" = some Sample.staff :=
    parts.segment_found List.mem_cons_self
  have staffFound' : s'.segments.get? "staff" = some Sample.staff :=
    parts'.segment_found (List.mem_cons_of_mem _ List.mem_cons_self)
  have agree : s.AgreeAbout "theme" "production" s' := by
    refine ⟨flagFound.trans flagFound'.symm, stateFound.trans stateFound'.symm, ?_⟩
    intro state found key names
    obtain rfl := Option.some.inj (found.symm.trans stateFound)
    rw [Sample.staffState_names names, staffFound, staffFound']
  have alike : Sample.colleague.AgreeOn (s.Tests "theme" "production") Sample.located := by
    refine ⟨rfl, fun name tests => ?_⟩
    obtain ⟨state, found, tests⟩ := tests
    obtain rfl := Option.some.inj (found.symm.trans stateFound)
    rcases Sample.staffState_tests staffFound tests with rfl | rfl
    · exact .some rfl
    · exact .some rfl
  have served
      : s.flags.get? "theme" = none ∨ s.states.get? ("theme", "production") = none
        → Datum.null = .text "light" := by
    simp [flagFound, stateFound]
  obtain ⟨d, decided, -, decided'⟩ :=
    decisionsAreLocal ⟨_, _, _, _, built⟩ agree alike served Sample.yearBefore
  exact ⟨s, s', d, built, built', decided, decided'⟩

end FeatureFlags
