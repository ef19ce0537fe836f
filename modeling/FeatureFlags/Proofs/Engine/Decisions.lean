import FeatureFlags.Engine.Serving
import FeatureFlags.Proofs.Engine.Slot

/-! What one decision does: the moment for which it is made, the host in which it is reached, and
that nobody but its listeners has a part in what follows.
-/

namespace FeatureFlags.Host

-----------------------------------------------------------------------------------------
-- Hosts with the same engines
-----------------------------------------------------------------------------------------

/-- No engine differs from what it was, except for how often its clock was read. -/
structure Alike (h h' : Host) : Prop where
  count : h'.engines.length = h.engines.length
  engines : ∀ id, ∃ readings, h'.engine id = { h.engine id with readings := readings }

theorem engine_of_engines {h h' : Host} (same : h'.engines = h.engines) (id : Engine.Id)
    : h'.engine id = h.engine id := by
  simp only [engine, same]

/-- What a host remembers besides its engines does not matter. -/
theorem alike_of_engines {h h' : Host} (same : h'.engines = h.engines) : h.Alike h' :=
  ⟨by rw [same], fun id => ⟨(h.engine id).readings, engine_of_engines same id⟩⟩

/-- No engine differs from what it was; the present may have been asked for. -/
structure Quiet (h h' : Host) : Prop where
  engines : h'.engines = h.engines
  readings : h.readings ≤ h'.readings

/-- What a host remembers besides does not matter. -/
theorem quiet_of_same {h h' : Host} (engines : h'.engines = h.engines)
    (readings : h'.readings = h.readings)
    : Quiet h h' :=
  ⟨engines, Nat.le_of_eq readings.symm⟩

-----------------------------------------------------------------------------------------
-- Hosts in which nothing was heard
-----------------------------------------------------------------------------------------

/-- Nobody has heard of anything, and the same version is bound. -/
structure Unheard (h h' : Host) : Prop where
  heard : h'.heard = h.heard
  boundVersion : h'.boundVersion = h.boundVersion

section

variable {h h₁ h₂ : Host}

theorem Unheard.trans (first : Unheard h h₁) (second : Unheard h₁ h₂) : Unheard h h₂ :=
  ⟨second.heard.trans first.heard, second.boundVersion.trans first.boundVersion⟩

theorem unheard_publish (id : Engine.Id) (snapshot : Snapshot) (h : Host)
    : Unheard h (h.publish id snapshot).2 := by
  rcases publish_cases h id snapshot with ⟨-, done⟩ | ⟨-, active, -, done⟩
  · rw [done]
    exact ⟨rfl, rfl⟩
  · rw [done]
    exact ⟨rfl, rfl⟩

theorem unheard_removeListener (id : Engine.Id) (l : Listener) (h : Host)
    : Unheard h (h.removeListener id l).2 := by
  unfold removeListener
  dsimp only
  split <;> exact ⟨rfl, rfl⟩

end

-----------------------------------------------------------------------------------------
-- The moment of a decision
-----------------------------------------------------------------------------------------

/-- The moment for which an engine is asked: the given one, or else the next reading of its clock. -/
def askedMoment (id : Engine.Id) (now : Option Moment) (h : Host) : Option Moment :=
  now.or ((h.engine id).clock.map fun clock => clock (h.engine id).readings)

theorem clockMoment_fst (id : Engine.Id) (now : Option Moment) (h : Host)
    : (h.clockMoment id now).1 = h.askedMoment id now := by
  unfold clockMoment askedMoment
  cases now with
  | some m => rfl
  | none => cases (h.engine id).clock <;> rfl

theorem alike_clockMoment (id : Engine.Id) (now : Option Moment) (h : Host)
    : h.Alike (h.clockMoment id now).2 := by
  unfold clockMoment
  split
  · exact alike_of_engines rfl
  · exact alike_of_engines rfl
  · refine ⟨length_setEngine h id _, fun other => ?_⟩
    by_cases same : id = other
    · subst same
      by_cases there : id < h.engines.length
      · exact ⟨_, engine_setEngine there _⟩
      · refine ⟨(h.engine id).readings, engine_of_engines ?_ id⟩
        exact List.set_eq_of_length_le (Nat.le_of_not_lt there)
    · exact ⟨(h.engine other).readings, engine_setEngine_of_ne same _⟩

@[simp] theorem boundVersion_clockMoment (id : Engine.Id) (now : Option Moment) (h : Host)
    : (h.clockMoment id now).2.boundVersion = h.boundVersion := by
  unfold clockMoment
  split <;> rfl

@[simp] theorem heard_clockMoment (id : Engine.Id) (now : Option Moment) (h : Host)
    : (h.clockMoment id now).2.heard = h.heard := by
  unfold clockMoment
  split <;> rfl

@[simp] theorem readings_clockMoment (id : Engine.Id) (now : Option Moment) (h : Host)
    : (h.clockMoment id now).2.readings = h.readings := by
  unfold clockMoment
  split <;> rfl

-----------------------------------------------------------------------------------------
-- The decision and its host
-----------------------------------------------------------------------------------------

section

variable (s : Surroundings) (perform : Performer) (id : Engine.Id) (snapshot : Option Snapshot)
  (flagKey environment : String) (context : Context) (fallback : Datum) (now : Option Moment)
  (h : Host)

theorem decisionMoment_fst
    : (decisionMoment s snapshot flagKey environment now h).1
      = now.getD (s.present h.readings) := by
  unfold decisionMoment
  cases now with
  | some m => rfl
  | none =>
      dsimp only
      split <;> rfl

/-- Asking for the present only counts how often that is done. -/
theorem decisionMoment_snd
    : ∃ readings,
        h.readings ≤ readings
        ∧ (decisionMoment s snapshot flagKey environment now h).2
          = { h with readings := readings } := by
  unfold decisionMoment
  cases now with
  | some m => exact ⟨h.readings, Nat.le_refl _, rfl⟩
  | none =>
      dsimp only
      split
      · exact ⟨h.readings + 1, Nat.le_succ _, rfl⟩
      · exact ⟨h.readings, Nat.le_refl _, rfl⟩

/-- The evaluation that a decision rests on. -/
def evaluation : Traced Decision :=
  evaluate snapshot flagKey environment context fallback (now.getD (s.present h.readings))

/-- The host in which a decision is reached: the version of its snapshot is bound and its events are
in the log.
-/
def deciding : Host :=
  (decisionMoment s snapshot flagKey environment now { h with boundVersion := tag snapshot }).2.write
    (h.evaluation s snapshot flagKey environment context fallback now).events

theorem quiet_deciding
    : Quiet h (h.deciding s snapshot flagKey environment context fallback now) := by
  obtain ⟨readings, more, asked⟩ := decisionMoment_snd s snapshot flagKey environment now
    { h with boundVersion := tag snapshot }
  rw [deciding, asked]
  exact ⟨rfl, more⟩

@[simp] theorem boundVersion_deciding
    : (h.deciding s snapshot flagKey environment context fallback now).boundVersion
      = tag snapshot := by
  obtain ⟨readings, -, asked⟩ := decisionMoment_snd s snapshot flagKey environment now
    { h with boundVersion := tag snapshot }
  rw [deciding, asked]
  rfl

@[simp] theorem heard_deciding
    : (h.deciding s snapshot flagKey environment context fallback now).heard = h.heard := by
  obtain ⟨readings, -, asked⟩ := decisionMoment_snd s snapshot flagKey environment now
    { h with boundVersion := tag snapshot }
  rw [deciding, asked]
  rfl

/-- The outcome of a decision is that of its evaluation. The listeners are those of the engine when
the decision was asked for, and afterwards the former version is bound again.
-/
theorem decide_eq
    : h.decide s perform id snapshot flagKey environment context fallback now
      = let reached := h.deciding s snapshot flagKey environment context fallback now
        match (h.evaluation s snapshot flagKey environment context fallback now).result with
        | .error e => (.error e, { reached with boundVersion := h.boundVersion })
        | .ok d =>
          (.ok d,
            { reached.notify s perform d context (h.engine id).listeners with
              boundVersion := h.boundVersion }) := by
  have moment
      : now.getD (s.present h.readings)
        = (decisionMoment s snapshot flagKey environment now
            { h with boundVersion := tag snapshot }).1 := by
    rw [decisionMoment_fst]
  have same := engine_of_engines
    (quiet_deciding s snapshot flagKey environment context fallback now h).engines id
  rw [← same]
  unfold decide deciding evaluation
  rewrite [moment]
  rfl

/-- The answer of a decision is the result of its evaluation, whatever its listeners do. -/
theorem decide_fst
    : (h.decide s perform id snapshot flagKey environment context fallback now).1
      = (h.evaluation s snapshot flagKey environment context fallback now).result := by
  rw [decide_eq]
  dsimp only
  cases (h.evaluation s snapshot flagKey environment context fallback now).result <;> rfl

/-- The evaluation that is asked for: that of the snapshot of an engine, for the moment that is given,
or else for the reading of the engine's clock, or else for the present.
-/
def asked : Traced Decision :=
  h.evaluation s (h.engine id).snapshot flagKey environment context fallback
    (h.askedMoment id now)

theorem evaluation_clockMoment
    : (h.clockMoment id now).2.evaluation s snapshot flagKey environment context fallback
        (h.clockMoment id now).1
      = h.evaluation s snapshot flagKey environment context fallback (h.askedMoment id now) := by
  unfold evaluation
  rw [clockMoment_fst, readings_clockMoment]

theorem evaluateFlag_fst
    : (h.evaluateFlag s perform id flagKey environment context fallback now).1
      = (h.asked s id flagKey environment context fallback now).result := by
  unfold evaluateFlag
  dsimp only
  rw [decide_fst, evaluation_clockMoment]
  rfl

end

end FeatureFlags.Host
