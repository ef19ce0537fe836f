import FeatureFlags.Evaluation
import FeatureFlags.Proofs.Condition.Validation
import FeatureFlags.Proofs.Flag.Projection

/-! Evaluation answers. Whatever could keep a test from answering, a malformed or oversized regular
expression, is refused when a snapshot is built; each level from conditions to whole evaluations
passes that on.
-/

namespace FeatureFlags

-----------------------------------------------------------------------------------------
-- Conditions, segments and rules
-----------------------------------------------------------------------------------------

namespace Condition

/-- A usable condition has an answer in every context. -/
theorem Usable.answers {c : Condition} (usable : c.Usable) (context : Context)
    : (c.holds context).Answers :=
  usable.legible.answers context

theorem allHold_answers {conditions : List Condition} (legible : ∀ c ∈ conditions, c.Legible)
    (context : Context)
    : (allHold conditions context).Answers :=
  Traced.answers_all (fun c member => (legible c member).answers context)

end Condition

/-- All conditions of the rules of the segment are legible. -/
def Segment.Legible (g : Segment) : Prop :=
  ∀ conditions ∈ g.rules, ∀ c ∈ conditions, c.Legible

/-- A legible segment has an answer for every context. -/
theorem Segment.admits_answers {g : Segment} (legible : g.Legible) (context : Context)
    : (g.admits context).Answers := by
  unfold Segment.admits
  split
  · exact Traced.answers_pure false
  · split
    · exact Traced.answers_pure true
    · exact Traced.answers_any
        (fun conditions member => Condition.allHold_answers (legible conditions member) context)

/-- All segments of a map are legible. -/
def SegmentMap.Legible (segments : SegmentMap) : Prop := ∀ e ∈ segments.entries, e.2.Legible

/-- All conditions of the segments of a map are usable. -/
def SegmentMap.Usable (segments : SegmentMap) : Prop :=
  ∀ e ∈ segments.entries, ∀ conditions ∈ e.2.rules, ∀ c ∈ conditions, c.Usable

theorem SegmentMap.Usable.legible {segments : SegmentMap} (usable : segments.Usable)
    : segments.Legible :=
  fun e entry conditions rule c condition => (usable e entry conditions rule c condition).legible

namespace Rule

variable {segments : SegmentMap}

theorem belongsTo_answers (legible : segments.Legible) (context : Context) (key : String)
    : (belongsTo segments context key).Answers := by
  unfold belongsTo
  split
  · next segment found =>
    exact Segment.admits_answers (legible _ (OrderedMap.get?_eq_some_iff.mp found)) context
  · exact Traced.answers_pure false

theorem staysOutOf_answers (legible : segments.Legible) (context : Context) (key : String)
    : (staysOutOf segments context key).Answers := by
  unfold staysOutOf
  split
  · next segment found =>
    exact (Segment.admits_answers (legible _ (OrderedMap.get?_eq_some_iff.mp found)) context).bind
      (fun admitted _ => Traced.answers_pure _)
  · exact Traced.answers_pure false

theorem segmentsHold_answers (legible : segments.Legible) (r : Rule) (context : Context)
    : (r.segmentsHold context segments).Answers := by
  refine (Traced.answers_all (fun key _ => belongsTo_answers legible context key)).bind ?_
  intro holds _
  cases holds with
  | true => exact Traced.answers_all (fun key _ => staysOutOf_answers legible context key)
  | false => exact Traced.answers_pure false

theorem concerns_answers (legible : segments.Legible) {r : Rule}
    (conditions : ∀ c ∈ r.conditions, c.Legible) (context : Context)
    : (r.concerns context segments).Answers := by
  refine (Condition.allHold_answers conditions context).bind ?_
  intro holds _
  cases holds with
  | true => exact segmentsHold_answers legible r context
  | false => exact Traced.answers_pure false

/-- The choice of a rule answers, by induction over the rules. -/
theorem select_answers (legible : segments.Legible) {rules : List Rule}
    (conditions : ∀ r ∈ rules, ∀ c ∈ r.conditions, c.Legible) (flagKey : String)
    (context : Context)
    : (select flagKey context segments rules).Answers := by
  induction rules with
  | nil => exact Traced.answers_pure none
  | cons r rest ih =>
      have later := ih (fun r member => conditions r (List.mem_cons_of_mem _ member))
      refine (concerns_answers legible (conditions r (by simp)) context).bind ?_
      intro concerned _
      cases concerned with
      | false => exact later
      | true =>
          simp only [if_true]
          split
          · exact Traced.answers_pure _
          · split
            · exact Traced.answers_pure _
            · exact Traced.Answers.bind ⟨(), rfl⟩ (fun _ _ => later)

end Rule

-----------------------------------------------------------------------------------------
-- Whole evaluations
-----------------------------------------------------------------------------------------

namespace Evaluation

variable {s : Snapshot} {flag : Flag} {known : List String} {state : FlagState}

/-- With a moment that has an offset, resolution is the kill switch or else the projected state. -/
theorem resolve_eq (s : Snapshot) (flag : Flag) (state : FlagState) (context : Context)
    (now : AwareMoment)
    : resolve s flag state context now.toMoment
      = if state.killSwitch then pure (serve s flag flag.offValue .killSwitch none)
        else byState s flag (state.projected now) context := by
  unfold resolve
  rw [FlagState.effective_eq, Traced.lift_ok_bind]

/-- The decision about an enabled flag by the choice among its rules. -/
def bySelection (s : Snapshot) (flag : Flag) (state : FlagState) (context : Context)
    : Option Rule.Selection → Decision
  | some selection =>
    { serve s flag selection.rule.value .ruleMatch selection.inRollout with
      ruleId := some selection.rule.id }
  | none => byDefault s flag state context

theorem byState_result (s : Snapshot) (flag : Flag) (state : FlagState) (context : Context)
    : (byState s flag state context).result
      = if state.enabled then
          (Rule.select flag.key context s.segments state.rules.rules).result.map
            (bySelection s flag state context)
        else .ok (serve s flag flag.offValue .flagDisabled none) := by
  unfold byState
  cases state.enabled with
  | false => rfl
  | true =>
      simp only [Bool.not_true, Bool.false_eq_true, if_false, if_true, Traced.result_bind]
      cases (Rule.select flag.key context s.segments state.rules.rules).result with
      | error e => rfl
      | ok selected => cases selected <;> rfl

theorem byState_answers (usable : s.segments.Usable) (suits : state.Suits flag known)
    (context : Context)
    : (byState s flag state context).Answers := by
  unfold byState
  split
  · exact Traced.answers_pure _
  · refine (Rule.select_answers usable.legible ?_ flag.key context).bind ?_
    · exact fun r member c given => ((suits.rules.grounded r member).conditions c given).legible
    · intro selected _
      cases selected <;> exact Traced.answers_pure _

theorem resolve_answers (usable : s.segments.Usable) (suits : state.Suits flag known)
    (context : Context) (now : AwareMoment)
    : (resolve s flag state context now.toMoment).Answers := by
  rw [resolve_eq]
  split
  · exact Traced.answers_pure _
  · exact byState_answers usable (suits.projected now) context

theorem guarded_answers (s : Snapshot) (flagKey environment : String) (flag : Flag)
    (context : Context) (d : Decision)
    : (guarded s flagKey environment flag context d).Answers := by
  unfold guarded
  split <;> exact Traced.Answers.bind ⟨(), rfl⟩ (fun _ _ => Traced.answers_pure _)

/-- The flag and the state that are found are those under the keys. -/
theorem find?_eq_some_iff {flagKey environment : String} {found : Snapshot × Flag × FlagState}
    : find? (some s) flagKey environment = some found
      ↔ found.1 = s ∧ s.flags.get? flagKey = some found.2.1
        ∧ s.states.get? (flagKey, environment) = some found.2.2 := by
  obtain ⟨t, flag, state⟩ := found
  simp only [find?, Option.bind_eq_bind, Option.bind_some, Option.bind_eq_some_iff,
    Option.pure_def, Option.some.injEq, Prod.mk.injEq]
  constructor
  · rintro ⟨f, flagFound, st, stateFound, rfl, rfl, rfl⟩
    exact ⟨rfl, flagFound, stateFound⟩
  · rintro ⟨rfl, flagFound, stateFound⟩
    exact ⟨flag, flagFound, state, stateFound, rfl, rfl, rfl⟩

end Evaluation

/-- Every flag of a coherent snapshot can be evaluated at every moment with an offset. -/
theorem Snapshot.Coherent.evaluate_answers {s : Snapshot} (coherent : s.Coherent)
    (flagKey environment : String) (context : Context) (fallback : Datum) (now : AwareMoment)
    : (evaluate (some s) flagKey environment context fallback now.toMoment).Answers := by
  unfold evaluate
  split
  · exact Traced.answers_pure _
  · next t flag state found =>
    obtain ⟨rfl, flagFound, stateFound⟩ := Evaluation.find?_eq_some_iff.mp found
    have suits := coherent.suits flagFound stateFound
    exact (Evaluation.resolve_answers coherent.segments suits context now).bind
      (fun d _ => Evaluation.guarded_answers _ flagKey environment _ context d)

end FeatureFlags
