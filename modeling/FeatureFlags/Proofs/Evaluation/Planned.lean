import FeatureFlags.Proofs.Calendar.Reading
import FeatureFlags.Proofs.Evaluation.MixedMoments

/-! Flags with planned changes. Whatever is decided about such a flag, it is decided with the change or
without it, by one comparison of moments. So two flags whose changes are planned for one time are
decided about alike at each moment.
-/

namespace FeatureFlags

namespace Evaluation

/-- The decision about a flag if some state holds, before its value is looked at: off where a kill
switch is thrown, and otherwise by the state, whatever it plans.
-/
def byHolding (s : Snapshot) (flag : Flag) (holding : FlagState) (context : Context)
    : Traced Decision :=
  if holding.killSwitch then pure (serve s flag flag.offValue .killSwitch none)
  else byState s flag holding context

/-- The decision about a flag if some state holds. -/
def decideBy (s : Snapshot) (flagKey environment : String) (flag : Flag) (holding : FlagState)
    (context : Context) : Traced Decision := do
  guarded s flagKey environment flag context (← byHolding s flag holding context)

end Evaluation

/-- A flag with a state for which a change is planned. -/
structure Plan (s : Snapshot) (flagKey environment : String) where
  flag : Flag
  state : FlagState
  change : ScheduledChange
  flagFound : s.flags.get? flagKey = some flag
  stateFound : s.states.get? (flagKey, environment) = some state
  planned : state.scheduled = some change

namespace Plan

variable {s : Snapshot} {flagKey flagKey' environment : String}

/-- The moment for which the change is planned. -/
def moment (p : Plan s flagKey environment) : Moment := p.change.effectiveAt.toMoment

/-- The decision about the flag with the change. -/
def applied (p : Plan s flagKey environment) (context : Context) : Traced Decision :=
  Evaluation.decideBy s flagKey environment p.flag (p.state.apply p.change) context

/-- The decision about the flag without the change. -/
def deferred (p : Plan s flagKey environment) (context : Context) : Traced Decision :=
  Evaluation.decideBy s flagKey environment p.flag p.state context

variable {context : Context} {fallback : Datum} {now : Moment} {d d' : Decision}

/-- The flag is decided about with the change where it is due, and without it elsewhere. -/
theorem evaluate_eq (p : Plan s flagKey environment) (context : Context) (fallback : Datum)
    (now : AwareMoment)
    : evaluate (some s) flagKey environment context fallback now.toMoment
      = if p.moment.notAfter now.toMoment then p.applied context else p.deferred context := by
  have holding
      : p.state.projected now
        = if p.moment.notAfter now.toMoment then p.state.apply p.change else p.state := by
    simp only [FlagState.projected, p.planned]
    rfl
  rw [Evaluation.evaluate_of_found p.flagFound p.stateFound, Evaluation.resolve_eq,
    ← FlagState.killSwitch_projected p.state now, holding]
  split <;> rfl

/-- Where a kill switch is thrown, the change makes no difference. -/
theorem evaluate_of_killSwitch (p : Plan s flagKey environment)
    (thrown : p.state.killSwitch = true) (context : Context) (fallback : Datum) (now : Moment)
    : evaluate (some s) flagKey environment context fallback now = p.applied context
      ∧ evaluate (some s) flagKey environment context fallback now = p.deferred context := by
  have thrownAfter : (p.state.apply p.change).killSwitch = true := thrown
  rw [Evaluation.evaluate_of_found p.flagFound p.stateFound,
    Evaluation.resolve_of_killSwitch thrown]
  simp only [applied, deferred, Evaluation.decideBy, Evaluation.byHolding, thrown, thrownAfter,
    if_true, and_self]

/-- Whatever decision is returned, it was made with the change where the change is due, and without it
elsewhere.
-/
theorem applied_or_deferred (p : Plan s flagKey environment)
    (decided : (evaluate (some s) flagKey environment context fallback now).result = .ok d)
    : (p.moment.notAfter now = true ∧ (p.applied context).result = .ok d)
      ∨ (p.moment.notAfter now = false ∧ (p.deferred context).result = .ok d) := by
  cases thrown : p.state.killSwitch with
  | true =>
      obtain ⟨applied, deferred⟩ := p.evaluate_of_killSwitch thrown context fallback now
      cases due : p.moment.notAfter now with
      | true => exact Or.inl ⟨rfl, applied ▸ decided⟩
      | false => exact Or.inr ⟨rfl, deferred ▸ decided⟩
  | false =>
      -- The decision was returned, so the moments could be compared.
      have aware : now.isAware = true := by
        by_contra naive
        have mixed : Evaluation.MixesMoments (some s) flagKey environment (some now) :=
          ⟨s, p.flag, p.state, p.change, now, rfl, p.flagFound, p.stateFound, thrown, p.planned,
            rfl, by simpa using naive⟩
        have failed := Evaluation.evaluate_of_mixed mixed context fallback now
        rw [Option.getD_some, decided] at failed
        contradiction
      rw [p.evaluate_eq context fallback ⟨now, aware⟩] at decided
      cases due : p.moment.notAfter now with
      | true => exact Or.inl ⟨rfl, by rwa [due] at decided⟩
      | false => exact Or.inr ⟨rfl, by rwa [due] at decided⟩

/-- Both decisions are made with the planned changes, or both without. -/
def Together (p : Plan s flagKey environment) (p' : Plan s flagKey' environment)
    (context : Context) (d d' : Decision) : Prop :=
  ((p.applied context).result = .ok d ∧ (p'.applied context).result = .ok d')
  ∨ ((p.deferred context).result = .ok d ∧ (p'.deferred context).result = .ok d')

/-- The changes are planned for one time, as it is seen from a moment: both for the same moment, or for
one instant if neither of them is planned by the clock that gives the moment.
-/
def ForOneTime (p : Plan s flagKey environment) (p' : Plan s flagKey' environment) (now : Moment)
    : Prop :=
  p.moment = p'.moment
  ∨ (p.moment.instant = p'.moment.instant
    ∧ p.moment.sharesClock now = false
    ∧ p'.moment.sharesClock now = false)

theorem ForOneTime.notAfter_eq {p : Plan s flagKey environment}
    {p' : Plan s flagKey' environment} (same : p.ForOneTime p' now)
    : p.moment.notAfter now = p'.moment.notAfter now := by
  rcases same with same | ⟨same, apart, apart'⟩
  · rw [same]
  · rw [Bool.eq_iff_iff, Moment.notAfter_iff apart, Moment.notAfter_iff apart', same]

/-- At one moment both flags are decided about with their changes, or both without. -/
theorem ForOneTime.together {p : Plan s flagKey environment} {p' : Plan s flagKey' environment}
    (same : p.ForOneTime p' now)
    (decided : (evaluate (some s) flagKey environment context fallback now).result = .ok d)
    (decided' : (evaluate (some s) flagKey' environment context fallback now).result = .ok d')
    : p.Together p' context d d' := by
  have alike := same.notAfter_eq
  rcases p.applied_or_deferred decided with ⟨due, applied⟩ | ⟨ahead, deferred⟩
  · rcases p'.applied_or_deferred decided' with ⟨-, applied'⟩ | ⟨ahead', -⟩
    · exact Or.inl ⟨applied, applied'⟩
    · rw [due, ahead'] at alike
      contradiction
  · rcases p'.applied_or_deferred decided' with ⟨due', -⟩ | ⟨-, deferred'⟩
    · rw [ahead, due'] at alike
      contradiction
    · exact Or.inr ⟨deferred, deferred'⟩

/-- The decisions are made at moments between which the changes become due, the first decision without
its change and the second one with it.
-/
structure Straddles (p : Plan s flagKey environment) (p' : Plan s flagKey' environment)
    (context : Context) (now now' : Moment) (d d' : Decision) : Prop where
  deferred : (p.deferred context).result = .ok d
  applied : (p'.applied context).result = .ok d'
  ahead : now.instant < p.moment.instant
  reached : p.moment.instant ≤ now'.instant

/-- Of two flags whose changes are planned for one instant, only the one that is decided about earlier
can be without its change while the other one is with it.
-/
theorem together_or_straddles {now' : Moment} (p : Plan s flagKey environment)
    (p' : Plan s flagKey' environment) (same : p.moment.instant = p'.moment.instant)
    (universal : now.Universal) (universal' : now'.Universal)
    (decided : (evaluate (some s) flagKey environment context fallback now).result = .ok d)
    (decided' : (evaluate (some s) flagKey' environment context fallback now').result = .ok d')
    (order : now.instant ≤ now'.instant)
    : p.Together p' context d d' ∨ p.Straddles p' context now now' d d' := by
  have due : p.moment.notAfter now = true ↔ p.moment.instant ≤ now.instant :=
    Moment.notAfter_iff (p.moment.sharesClock_of_placeless universal.placeless)
  have due' : p'.moment.notAfter now' = true ↔ p.moment.instant ≤ now'.instant :=
    same ▸ Moment.notAfter_iff (p'.moment.sharesClock_of_placeless universal'.placeless)
  rcases p.applied_or_deferred decided with ⟨reached, applied⟩ | ⟨ahead, deferred⟩
  · rcases p'.applied_or_deferred decided' with ⟨-, applied'⟩ | ⟨ahead', -⟩
    · exact Or.inl (Or.inl ⟨applied, applied'⟩)
    · have reached' := due'.mpr (Int.le_trans (due.mp reached) order)
      rw [ahead'] at reached'
      contradiction
  · rcases p'.applied_or_deferred decided' with ⟨reached', applied'⟩ | ⟨-, deferred'⟩
    · have before : now.instant < p.moment.instant := by
        by_contra past
        rw [due.mpr (Int.not_lt.mp past)] at ahead
        contradiction
      exact Or.inr ⟨deferred, applied', before, due'.mp reached'⟩
    · exact Or.inl (Or.inr ⟨deferred, deferred'⟩)

end Plan

end FeatureFlags
