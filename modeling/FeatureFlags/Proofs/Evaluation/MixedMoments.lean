import FeatureFlags.Proofs.Evaluation.TypeSoundness

/-! When evaluations fail. Every condition that an evaluation can reach was checked when the
snapshot was built, so its regular expression can be read, and a missing attribute or a value of
another kind only makes a test fail. What is left is the moment of a planned change, which cannot be
compared with a moment without an offset.
-/

namespace FeatureFlags

-----------------------------------------------------------------------------------------
-- Moments without an offset
-----------------------------------------------------------------------------------------

namespace FlagState

theorem effective_of_unplanned {s : FlagState} (unplanned : s.scheduled = none) (now : Moment)
    : s.effective now = .ok s := by
  simp [effective, due?, unplanned, Except.map]

/-- A planned change cannot be compared with a moment without an offset. -/
theorem effective_of_naive {s : FlagState} {change : ScheduledChange}
    (planned : s.scheduled = some change) {now : Moment} (naive : now.isAware = false)
    : s.effective now = .error .mixedMoments := by
  have apart : change.effectiveAt.le? now = none := by
    simp [Moment.le?, change.effectiveAt.aware, naive]
  simp [effective, due?, planned, ScheduledChange.isDue, apart, Except.map]

end FlagState

namespace Evaluation

variable {s : Snapshot} {flag : Flag} {known : List String} {state : FlagState} {now : Moment}

/-- A thrown kill switch decides before any moments are compared. -/
theorem resolve_of_killSwitch (thrown : state.killSwitch = true) (s : Snapshot) (flag : Flag)
    (context : Context) (now : Moment)
    : resolve s flag state context now = pure (serve s flag flag.offValue .killSwitch none) := by
  simp [resolve, thrown]

theorem resolve_of_unplanned (live : state.killSwitch = false)
    (unplanned : state.scheduled = none) (s : Snapshot) (flag : Flag) (context : Context)
    (now : Moment)
    : resolve s flag state context now = byState s flag state context := by
  unfold resolve
  rw [live, FlagState.effective_of_unplanned unplanned, Traced.lift_ok_bind]
  rfl

theorem resolve_of_naive (live : state.killSwitch = false) {change : ScheduledChange}
    (planned : state.scheduled = some change) (naive : now.isAware = false) (s : Snapshot)
    (flag : Flag) (context : Context)
    : (resolve s flag state context now).result = .error .mixedMoments := by
  unfold resolve
  rw [live, FlagState.effective_of_naive planned naive]
  rfl

/-- An evaluation has to compare moments that cannot be compared: the flag has a state whose kill
switch is not thrown and which plans a change, and the given moment has no offset.
-/
def MixesMoments (snapshot : Option Snapshot) (flagKey environment : String)
    (now : Option Moment) : Prop :=
  ∃ s flag state change m,
    snapshot = some s
    ∧ s.flags.get? flagKey = some flag
    ∧ s.states.get? (flagKey, environment) = some state
    ∧ state.killSwitch = false
    ∧ state.scheduled = some change
    ∧ now = some m
    ∧ m.isAware = false

theorem resolve_answers_unless_mixed (usable : s.segments.Usable) (suits : state.Suits flag known)
    (context : Context)
    (comparable
      : state.killSwitch = false → ∀ change, state.scheduled = some change → now.isAware = true)
    : (resolve s flag state context now).Answers := by
  cases thrown : state.killSwitch with
  | true =>
      rw [resolve_of_killSwitch thrown]
      exact Traced.answers_pure _
  | false =>
      cases planned : state.scheduled with
      | none =>
          rw [resolve_of_unplanned thrown planned]
          exact byState_answers usable suits context
      | some change =>
          have aware := comparable thrown change planned
          exact resolve_answers usable suits context ⟨now, aware⟩

/-- A comparison of moments with and without an offset ends the evaluation, in whatever snapshot. -/
theorem evaluate_of_mixed {snapshot : Option Snapshot} {flagKey environment : String}
    {now : Option Moment} (mixed : MixesMoments snapshot flagKey environment now)
    (context : Context) (fallback : Datum) (present : Moment)
    : (evaluate snapshot flagKey environment context fallback (now.getD present)).result
      = .error .mixedMoments := by
  obtain ⟨s, flag, state, change, m, rfl, flagFound, stateFound, live, planned, rfl, naive⟩ :=
    mixed
  rw [evaluate_of_found flagFound stateFound, Traced.result_bind, Option.getD_some,
    resolve_of_naive live planned naive]
  rfl

/-- Every other evaluation of a coherent snapshot, or of none, answers. -/
theorem evaluate_answers_unless_mixed {snapshot : Option Snapshot}
    (coherent : ∀ s, snapshot = some s → s.Coherent) {flagKey environment : String}
    {now : Option Moment} (unmixed : ¬ MixesMoments snapshot flagKey environment now)
    (context : Context) (fallback : Datum) (present : AwareMoment)
    : (evaluate snapshot flagKey environment context fallback
        (now.getD present.toMoment)).Answers := by
  unfold evaluate
  split
  · exact Traced.answers_pure _
  · next s flag state found =>
    obtain _ | s := snapshot
    · simp [find?] at found
    obtain ⟨rfl, flagFound, stateFound⟩ := find?_eq_some_iff.mp found
    have coherent := coherent _ rfl
    have suits := coherent.suits flagFound stateFound
    refine (resolve_answers_unless_mixed coherent.segments suits context ?_).bind
      (fun d _ => guarded_answers _ flagKey environment _ context d)
    intro live change planned
    -- The present has an offset, so only a given moment can lack one.
    cases now with
    | none => exact present.aware
    | some m =>
        by_contra naive
        exact unmixed ⟨_, flag, state, change, m, rfl, flagFound, stateFound, live, planned, rfl,
          by simpa using naive⟩

end Evaluation

/-- Evaluation fails in exactly one situation. Let the snapshot be an accepted one, or let there be
none. An evaluation at a given moment, or at present if none is given, answers unless it mixes
moments with and without an offset, and then it fails for that reason and for no other. All regular
expressions within reach can be read, and all conditions within reach answer in every context.
-/
theorem evaluationFailsOnMixedMoments (snapshot : Option Snapshot)
    (accepted : ∀ s, snapshot = some s → s.Accepted)
    : (∀ (flagKey environment : String) (context : Context) (fallback : Datum)
          (now : Option Moment) (present : AwareMoment),
        ((∃ d,
            (evaluate snapshot flagKey environment context fallback
              (now.getD present.toMoment)).result = .ok d)
          ↔ ¬ Evaluation.MixesMoments snapshot flagKey environment now)
        ∧ ∀ e,
            (evaluate snapshot flagKey environment context fallback
              (now.getD present.toMoment)).result = .error e
            ↔ e = .mixedMoments ∧ Evaluation.MixesMoments snapshot flagKey environment now)
      ∧ ∀ s, snapshot = some s
          → ∀ c, s.Reaches c
              → (c.operator = .matchesPattern
                  → ∃ text pattern,
                      c.value = some (.text text) ∧ Pattern.read text = .ok pattern)
                ∧ ∀ context, ∃ holds, (c.holds context).result = .ok holds := by
  have coherent (s : Snapshot) (given : snapshot = some s) : s.Coherent :=
    (accepted s given).coherent
  constructor
  · intro flagKey environment context fallback now present
    by_cases mixed : Evaluation.MixesMoments snapshot flagKey environment now
    · have failed := Evaluation.evaluate_of_mixed mixed context fallback present.toMoment
      simp only [failed, mixed, reduceCtorEq, exists_false, not_true, true_and, and_true,
        Except.error.injEq]
      exact fun e => eq_comm
    · obtain ⟨d, decided⟩ :=
        Evaluation.evaluate_answers_unless_mixed coherent mixed context fallback present
      simp [decided, mixed]
  · intro s given c reached
    have usable := (coherent s given).usable_of_reaches reached
    exact ⟨usable.exists_pattern, usable.answers⟩

/-- The flag is served at the start of a year in universal time, and not at a midnight that has no
offset, because a change is planned for it.
-/
theorem sample_flag_fails_without_offset
    : ∃ s,
        (Snapshot.build (.int 1) [Sample.flag] [(("theme", "production"), Sample.state)] []).result
            = .ok s
          ∧ (∃ d,
              (evaluate (some s) "theme" "production" .empty .null
                Sample.newYear.toMoment).result = .ok d)
          ∧ (evaluate (some s) "theme" "production" .empty .null
                ⟨⟨2030, 1, 1, by decide⟩, .midnight, none, none⟩).result = .error .mixedMoments := by
  obtain ⟨s, built⟩ := Sample.exists_built
  have accepted (t : Snapshot) (same : some s = some t) : t.Accepted :=
    Option.some.inj same ▸ ⟨_, _, _, _, built⟩
  obtain ⟨-, -, parts⟩ := (Snapshot.build_eq_ok_iff ..).mp built
  have flagFound : s.flags.get? "theme" = some Sample.flag :=
    OrderedMap.get?_eq_some_iff.mpr (by rw [parts.flags]; exact List.mem_cons_self)
  have stateFound : s.states.get? ("theme", "production") = some Sample.state :=
    OrderedMap.get?_eq_some_iff.mpr (by rw [parts.states]; exact List.mem_cons_self)
  have outcome := (evaluationFailsOnMixedMoments (some s) accepted).1 "theme"
    "production" .empty .null
  refine ⟨s, built, ?_, ?_⟩
  · refine (outcome (some Sample.newYear.toMoment) Sample.newYear).1.mpr ?_
    rintro ⟨-, -, -, -, m, -, -, -, -, -, given, naive⟩
    rw [← Option.some.inj given, Sample.newYear.aware] at naive
    contradiction
  · refine ((outcome (some ⟨⟨2030, 1, 1, by decide⟩, .midnight, none, none⟩) Sample.newYear).2 _).mpr ?_
    exact ⟨rfl, s, Sample.flag, Sample.state, _, _, rfl, flagFound, stateFound, rfl, rfl, rfl, rfl⟩

end FeatureFlags
