import FeatureFlags.Proofs.Evaluation.TypeSoundness
import FeatureFlags.Proofs.Rule.Widening

/-! Decisions explain themselves. In an accepted snapshot an evaluation takes one of seven courses,
and the reason of a decision says which one it was; only the two courses that end with the default
reason are told apart by the part that the entity takes in the rollout. Each course has exact
conditions, so the reasons can be read as facts about the state that holds.
-/

namespace FeatureFlags

namespace Evaluation

/-- The kill switch of a flag is not thrown, and the flag is enabled in the state that holds. -/
structure Running (state holding : FlagState) : Prop where
  switch : state.killSwitch = false
  enabled : holding.enabled = true

/-- No rule of the state that holds qualifies. -/
def Unmatched (s : Snapshot) (flag : Flag) (holding : FlagState) (context : Context) : Prop :=
  ∀ r ∈ holding.rules.rules, ¬ r.Qualifies flag.key context s.segments

/-- The ways from a flag that was found to a decision, one for each step that can be the last. -/
inductive Course (s : Snapshot) (flag : Flag) (state holding : FlagState) (context : Context)
    : Decision → Prop
  | switched (thrown : state.killSwitch = true)
      : Course s flag state holding context (serve s flag flag.offValue .killSwitch none)
  | disabled (switch : state.killSwitch = false) (disabled : holding.enabled = false)
      : Course s flag state holding context (serve s flag flag.offValue .flagDisabled none)
  | byRule {r : Rule} (running : Running state holding)
      (decides : Rule.FirstQualifying flag.key context s.segments holding.rules.rules r)
      : Course s flag state holding context
          { serve s flag r.value .ruleMatch (r.percentage.map fun _ => true) with
            ruleId := some r.id }
  | inside {p : Percentage} (running : Running state holding)
      (unmatched : Unmatched s flag holding context) (limited : holding.percentage = some p)
      (below : Rollout.bucket flag.key context.entityId < p.value)
      : Course s flag state holding context
          (serve s flag holding.defaultValue .rolloutBucket (some true))
  | outside {p : Percentage} (running : Running state holding)
      (unmatched : Unmatched s flag holding context) (limited : holding.percentage = some p)
      (above : p.value ≤ Rollout.bucket flag.key context.entityId)
      : Course s flag state holding context (serve s flag flag.offValue .default (some false))
  | unlimited (running : Running state holding) (unmatched : Unmatched s flag holding context)
      (unlimited : holding.percentage = none)
      : Course s flag state holding context (serve s flag holding.defaultValue .default none)

variable {s : Snapshot} {flag : Flag} {state holding : FlagState} {context : Context}

theorem unmatched_iff
    : Unmatched s flag holding context
      ↔ ¬ ∃ r ∈ holding.rules.rules, r.Qualifies flag.key context s.segments := by
  simp [Unmatched]

/-- Without a rule that qualifies, the last step ends one of three courses. -/
theorem course_byDefault (running : Running state holding)
    (unmatched : Unmatched s flag holding context)
    : Course s flag state holding context (byDefault s flag holding context) := by
  unfold byDefault
  cases limited : holding.percentage with
  | none => exact .unlimited running unmatched limited
  | some p =>
      have included
          : p.includes flag.key context.entityId = true
            ↔ Rollout.bucket flag.key context.entityId < p.value := by
        rw [Percentage.includes, Rollout.includes_iff]
        exact Int.ofNat_lt
      dsimp only
      split
      · next taken => exact .inside running unmatched limited (included.mp taken)
      · next left => exact .outside running unmatched limited (Nat.le_of_not_lt (mt included.mpr left))

/-- An evaluation takes one of the courses if the tests of all rules answer. -/
theorem course_byState (switch : state.killSwitch = false)
    (answers : ∀ r ∈ holding.rules.rules, ¬ r.Fails context s.segments) {d : Decision}
    (decided : (byState s flag holding context).result = .ok d)
    : Course s flag state holding context d := by
  rw [byState_result] at decided
  cases enabled : holding.enabled with
  | false =>
      simp only [enabled, Bool.false_eq_true, if_false, Except.ok.injEq] at decided
      exact decided ▸ .disabled switch enabled
  | true =>
      simp only [enabled, if_true] at decided
      have running : Running state holding := ⟨switch, enabled⟩
      rcases Rule.select_of_answers flag.key context s.segments answers with
        ⟨r, decides, selected⟩ | ⟨unmatched, selected⟩
      · rw [selected] at decided
        obtain rfl := Except.ok.inj decided
        exact .byRule running decides
      · rw [selected] at decided
        obtain rfl := Except.ok.inj decided
        exact course_byDefault running unmatched

/-- The tests of all rules answer if the state that holds suits its flag. -/
theorem course_of_suits (usable : s.segments.Usable) {known : List String}
    (suits : holding.Suits flag known) (switch : state.killSwitch = false) {d : Decision}
    (decided : (byState s flag holding context).result = .ok d)
    : Course s flag state holding context d := by
  refine course_byState switch ?_ decided
  rintro r member ⟨e, failed⟩
  obtain ⟨concerned, answered⟩ :=
    Rule.concerns_answers usable.legible
      (fun c given => ((suits.rules.grounded r member).conditions c given).legible) context
  rw [answered] at failed
  contradiction

end Evaluation

/-- In a coherent snapshot every evaluation of a flag that is there takes one of the courses. -/
theorem Snapshot.Coherent.evaluate_course {s : Snapshot} (coherent : s.Coherent)
    {flagKey environment : String} {flag : Flag} {state : FlagState}
    (flagFound : s.flags.get? flagKey = some flag)
    (stateFound : s.states.get? (flagKey, environment) = some state) (context : Context)
    (fallback : Datum) (now : AwareMoment) {d : Decision}
    (decided : (evaluate (some s) flagKey environment context fallback now.toMoment).result = .ok d)
    : Evaluation.Course s flag state (state.projected now) context d := by
  have suits := coherent.suits flagFound stateFound
  rw [coherent.evaluate_eq_resolve flagFound stateFound, Evaluation.resolve_eq] at decided
  cases thrown : state.killSwitch with
  | true =>
      simp only [thrown, if_true, Traced.result_pure, Except.ok.injEq] at decided
      exact decided ▸ .switched thrown
  | false =>
      simp only [thrown, Bool.false_eq_true, if_false] at decided
      exact Evaluation.course_of_suits coherent.segments (suits.projected now) thrown decided

-----------------------------------------------------------------------------------------
-- What decisions say
-----------------------------------------------------------------------------------------

namespace Evaluation

/-- What a decision about a flag says about the state of the flag and the one that holds. -/
structure Explains (s : Snapshot) (flag : Flag) (state holding : FlagState)
    (context : Context) (d : Decision) : Prop where
  killSwitch : d.reason = .killSwitch ↔ state.killSwitch = true
  flagDisabled : d.reason = .flagDisabled ↔ state.killSwitch = false ∧ holding.enabled = false
  ruleMatch
    : d.reason = .ruleMatch
      ↔ Running state holding
        ∧ ∃ r ∈ holding.rules.rules, r.Qualifies flag.key context s.segments
  rolloutBucket
    : d.reason = .rolloutBucket
      ↔ Running state holding
        ∧ Unmatched s flag holding context
        ∧ ∃ p, holding.percentage = some p ∧ Rollout.bucket flag.key context.entityId < p.value
  default
    : d.reason = .default
      ↔ Running state holding
        ∧ Unmatched s flag holding context
        ∧ ∀ p, holding.percentage = some p → p.value ≤ Rollout.bucket flag.key context.entityId
  off : d.reason = .killSwitch ∨ d.reason = .flagDisabled → d.value = flag.offValue.datum
  byRule
    : d.reason = .ruleMatch
      → ∃ r,
          Rule.FirstQualifying flag.key context s.segments holding.rules.rules r
          ∧ d.ruleId = some r.id
          ∧ d.value = r.value.datum
          ∧ d.inRollout = r.percentage.map fun _ => true
  inside : d.reason = .rolloutBucket → d.inRollout = some true ∧ d.value = holding.defaultValue.datum
  outside : d.inRollout = some false ↔ d.reason = .default ∧ holding.percentage ≠ none
  outsideOff : d.inRollout = some false → d.value = flag.offValue.datum
  unlimited : d.reason = .default → (d.inRollout = none ↔ holding.percentage = none)
  unlimitedDefault
    : d.reason = .default → d.inRollout = none → d.value = holding.defaultValue.datum

namespace Course

theorem explains {d : Decision} (course : Course s flag state holding context d)
    : Explains s flag state holding context d := by
  cases course with
  | switched thrown =>
      have stopped : ¬ Running state holding := fun running => by simp [running.switch] at thrown
      constructor <;> simp [serve, thrown, stopped]
  | disabled switch disabled =>
      have stopped : ¬ Running state holding := fun running => by simp [running.enabled] at disabled
      constructor <;> simp [serve, switch, disabled, stopped]
  | @byRule r running decides =>
      obtain ⟨before, after, split, -⟩ := decides.first
      have member : r ∈ holding.rules.rules := by simp [split]
      have matched : ∃ r ∈ holding.rules.rules, r.Qualifies flag.key context s.segments :=
        ⟨r, member, decides.qualifies⟩
      have decided : ¬ Unmatched s flag holding context :=
        fun unmatched => unmatched_iff.mp unmatched matched
      constructor
      case byRule => exact fun _ => ⟨r, decides, rfl, rfl, rfl⟩
      all_goals simp [serve, running, running.switch, running.enabled, matched, decided]
  | inside running unmatched limited below =>
      have none := unmatched_iff.mp unmatched
      constructor <;>
        simp [serve, running, running.switch, running.enabled, unmatched, none, limited, below]
  | outside running unmatched limited above =>
      have none := unmatched_iff.mp unmatched
      constructor <;>
        simp [serve, running, running.switch, running.enabled, unmatched, none, limited, above]
  | unlimited running unmatched unlimited =>
      have none := unmatched_iff.mp unmatched
      constructor <;>
        simp [serve, running, running.switch, running.enabled, unmatched, none, unlimited]

/-- What a decision says whatever course was taken: it is labelled with the flag and the version of
the snapshot, its reason is one for flags that are there, and it names a rule if that is the reason.
-/
theorem labels {d : Decision} (course : Course s flag state holding context d)
    : (d.flagKey = flag.key ∧ d.snapshotVersion = some s.version)
      ∧ (d.reason ≠ .typeMismatch ∧ d.reason ≠ .flagNotFound)
      ∧ (d.ruleId ≠ none ↔ d.reason = .ruleMatch) := by
  cases course <;> simp [serve]

end Course

end Evaluation

/-- A feature is on by a rule, by a rollout or by default, for entities that are not left out of a
rollout, if the value is one that counts as true.
-/
theorem Decision.isEnabled_iff (d : Decision)
    : d.isEnabled = true
      ↔ (d.reason = .ruleMatch ∨ d.reason = .rolloutBucket ∨ d.reason = .default)
        ∧ d.inRollout ≠ some false
        ∧ d.value.isTrue = true := by
  unfold isEnabled
  cases d.reason <;> simp [Reason.neverEnabled]

/-- A decision explains itself. Whatever is asked of an accepted snapshot at a moment with an offset,
the decision has the version of the snapshot, it is the fallback exactly for a flag or a state that
is missing, and it names a rule exactly if a rule decided. For a flag with a state, each reason has
exact conditions about this state and the one that holds at the moment.
-/
theorem decisionsExplainThemselves {s : Snapshot} (accepted : s.Accepted)
    (flagKey environment : String) (context : Context) (fallback : Datum) (now : AwareMoment)
    : ∃ d,
        (evaluate (some s) flagKey environment context fallback now.toMoment).result = .ok d
        ∧ d.flagKey = flagKey
        ∧ d.snapshotVersion = some s.version
        ∧ d.reason ≠ .typeMismatch
        ∧ (d.reason = .flagNotFound
          ↔ s.flags.get? flagKey = none ∨ s.states.get? (flagKey, environment) = none)
        ∧ (d.reason = .flagNotFound → d.value = fallback ∧ d.inRollout = none)
        ∧ (d.ruleId ≠ none ↔ d.reason = .ruleMatch)
        ∧ (d.isEnabled = true
          ↔ (d.reason = .ruleMatch ∨ d.reason = .rolloutBucket ∨ d.reason = .default)
            ∧ d.inRollout ≠ some false
            ∧ d.value.isTrue = true)
        ∧ ∀ flag state,
            s.flags.get? flagKey = some flag
            → s.states.get? (flagKey, environment) = some state
            → ∃ holding,
                state.effective now.toMoment = .ok holding
                ∧ flag.key = flagKey
                ∧ Evaluation.Explains s flag state holding context d := by
  have coherent := accepted.coherent
  obtain ⟨d, decided⟩ := coherent.evaluate_answers flagKey environment context fallback now
  refine ⟨d, decided, ?_⟩
  by_cases missing
      : s.flags.get? flagKey = none ∨ s.states.get? (flagKey, environment) = none
  · rw [Evaluation.evaluate_of_missing missing, Traced.result_pure, Except.ok.injEq] at decided
    subst decided
    refine ⟨rfl, rfl, by simp, by simp [missing], fun _ => ⟨rfl, rfl⟩, by simp,
      Decision.isEnabled_iff _, ?_⟩
    intro flag state flagFound stateFound
    simp [flagFound, stateFound] at missing
  · obtain ⟨flagGiven, stateGiven⟩ := not_or.mp missing
    obtain ⟨flag, flagFound⟩ := Option.ne_none_iff_exists'.mp flagGiven
    obtain ⟨state, stateFound⟩ := Option.ne_none_iff_exists'.mp stateGiven
    have keyed : flagKey = flag.key :=
      coherent.flagKeys _ (OrderedMap.get?_eq_some_iff.mp flagFound)
    have course := coherent.evaluate_course flagFound stateFound context fallback now decided
    obtain ⟨⟨key, version⟩, ⟨proper, found⟩, ruleId⟩ := course.labels
    refine ⟨key.trans keyed.symm, version, proper, by simp [found, missing],
      fun notFound => absurd notFound found, ruleId, d.isEnabled_iff, ?_⟩
    intro flag' state' flagFound' stateFound'
    obtain rfl := Option.some.inj (flagFound.symm.trans flagFound')
    obtain rfl := Option.some.inj (stateFound.symm.trans stateFound')
    exact ⟨state.projected now, state.effective_eq now, keyed.symm, course.explains⟩

/-- Once its change is due, the flag serves its planned default value, outside of any rollout. -/
theorem sample_decision_explains_itself
    : ∃ s d,
        (Snapshot.build (.int 1) [Sample.flag] [(("theme", "production"), Sample.state)] []).result
            = .ok s
          ∧ (evaluate (some s) "theme" "production" Sample.payer .null
              Sample.newYear.toMoment).result = .ok d
          ∧ d.reason = .default
          ∧ d.value = .text "dark"
          ∧ d.isEnabled = true := by
  obtain ⟨s, built⟩ := Sample.exists_built
  obtain ⟨-, -, parts⟩ := (Snapshot.build_eq_ok_iff ..).mp built
  obtain ⟨d, decided, -, -, -, -, -, -, enabled, explained⟩ :=
    decisionsExplainThemselves ⟨_, _, _, _, built⟩ "theme" "production" Sample.payer .null
      Sample.newYear
  obtain ⟨holding, held, -, explains⟩ := explained Sample.flag Sample.state
    (parts.flag_found List.mem_cons_self) (parts.state_found List.mem_cons_self)
  have changed
      : Sample.state.effective Sample.newYear.toMoment
        = .ok ⟨true, false, none, .text "dark", none, ∅, none⟩ := by
    rfl
  obtain rfl := Except.ok.inj (held.symm.trans changed)
  have reason : d.reason = .default := by
    refine explains.default.mpr ⟨⟨rfl, rfl⟩, ?_, ?_⟩
    · intro r member
      contradiction
    · intro p limited
      contradiction
  have outcome : d.inRollout = none := (explains.unlimited reason).mpr rfl
  have value : d.value = .text "dark" := explains.unlimitedDefault reason outcome
  refine ⟨s, d, built, decided, reason, value, enabled.mpr ⟨?_, ?_, ?_⟩⟩
  · exact Or.inr (Or.inr reason)
  · simp [outcome]
  · rw [value]
    rfl

end FeatureFlags
