import FeatureFlags.Proofs.Engine.Sweep

/-! Readings of the present in a sweep. Nothing that happens in a process takes a reading back, so the
readings at which a sweep decides about its flags only go on, whatever listeners do in between.
-/

namespace FeatureFlags

-----------------------------------------------------------------------------------------
-- Readings of the present
-----------------------------------------------------------------------------------------

namespace Host

/-- How often the present was asked for only grows. -/
theorem aboutEngines_readings
    : AboutEngines fun h (_ : List Unit) h' => h.readings ≤ h'.readings where
  refl _ := Nat.le_refl _
  append := Nat.le_trans
  quiet quiet := quiet.readings

theorem readings_publish (id : Engine.Id) (snapshot : Snapshot) (h : Host)
    : (h.publish id snapshot).2.readings = h.readings := by
  rcases publish_cases h id snapshot with ⟨-, done⟩ | ⟨-, active, -, done⟩
  · rw [done]
    rfl
  · rw [done]
    rfl

/-- A call by itself asks for no present, by cases on the call. -/
theorem readings_alone (c : Call) (h : Host) : (c.alone h).readings = h.readings := by
  cases c with
  | evaluate id _ _ _ _ now => exact readings_clockMoment id now h
  | evaluateAll id _ _ now =>
      change (h.sweepStart id now).readings = _
      unfold sweepStart
      split
      · rfl
      · exact readings_clockMoment id now h
  | value _ id => exact readings_clockMoment id none h
  | isEnabled id => exact readings_clockMoment id none h
  | load id snapshot => exact readings_publish id snapshot h
  | publish id snapshot => exact readings_publish id snapshot h
  | addListener id l => rfl
  | removeListener id l =>
      change (h.removeListener id l).2.readings = _
      unfold removeListener
      dsimp only
      split <;> rfl

theorem readings_perform (s : Surroundings) (depth : Nat)
    : Follows (fun h (_ : List Unit) h' => h.readings ≤ h'.readings) (perform s depth)
        (trace s (fun _ _ => []) depth) :=
  follows_perform aboutEngines_readings (fun c h => Nat.le_of_eq (readings_alone c h).symm) s depth

-----------------------------------------------------------------------------------------
-- The readings of a sweep
-----------------------------------------------------------------------------------------

/-- Decisions of a sweep with the readings of the present at which they were made: the readings lie
between two others and only go on, and each decision is that of the moment that was given, or else of
its reading.
-/
structure Timed (s : Surroundings) (snapshot : Snapshot) (environment : String) (context : Context)
    (now : Option Moment) (first last : Nat) (made : List (Nat × String × Decision)) : Prop where
  within : ∀ e ∈ made, first ≤ e.1 ∧ e.1 ≤ last
  ordered : made.Pairwise fun e e' => e.1 ≤ e'.1
  evaluated
    : ∀ e ∈ made,
        (evaluate (some snapshot) e.2.1 environment context (.bool false)
          (now.getD (s.present e.1))).result = .ok e.2.2

section

variable {s : Surroundings} {depth : Nat} {id : Engine.Id} {snapshot : Snapshot}
  {environment : String} {context : Context} {now : Option Moment} {first middle last : Nat}

theorem Timed.nil : Timed s snapshot environment context now first last [] :=
  ⟨by simp, .nil, by simp⟩

/-- A decision in front of others that come later. -/
theorem Timed.cons {flagKey : String} {d : Decision} {made : List (Nat × String × Decision)}
    (decided
      : (evaluate (some snapshot) flagKey environment context (.bool false)
          (now.getD (s.present first))).result = .ok d)
    (step : first ≤ middle) (rest : middle ≤ last)
    (timed : Timed s snapshot environment context now middle last made)
    : Timed s snapshot environment context now first last ((first, flagKey, d) :: made) := by
  constructor
  case within =>
    refine List.forall_mem_cons.mpr ⟨⟨Nat.le_refl _, Nat.le_trans step rest⟩, ?_⟩
    intro e member
    exact ⟨Nat.le_trans step (timed.within e member).1, (timed.within e member).2⟩
  case ordered =>
    refine List.pairwise_cons.mpr ⟨?_, timed.ordered⟩
    intro e member
    exact Nat.le_trans step (timed.within e member).1
  case evaluated => exact List.forall_mem_cons.mpr ⟨decided, timed.evaluated⟩

/-- A sweep that returns decides about its first flag and then about the others. -/
theorem exists_of_decideAll_cons {key : String} {rest : List String} {h : Host}
    {decisions : List (String × Decision)}
    (answer
      : (h.decideAll s (perform s depth) id snapshot environment context now (key :: rest)).1
        = .ok decisions)
    : ∃ d others reached,
        h.decide s (perform s depth) id (some snapshot) key environment context (.bool false) now
            = (.ok d, reached)
        ∧ (reached.decideAll s (perform s depth) id snapshot environment context now rest).1
          = .ok others
        ∧ decisions = (key, d) :: others
        ∧ (h.decideAll s (perform s depth) id snapshot environment context now (key :: rest)).2
          = (reached.decideAll s (perform s depth) id snapshot environment context now rest).2 := by
  rw [decideAll] at answer ⊢
  rcases first
    : h.decide s (perform s depth) id (some snapshot) key environment context (.bool false) now with
    ⟨e | d, reached⟩
  · rw [first] at answer
    contradiction
  · rw [first] at answer
    dsimp only at answer ⊢
    rcases later
      : reached.decideAll s (perform s depth) id snapshot environment context now rest with
      ⟨e | others, last⟩
    · rw [later] at answer
      contradiction
    · rw [later] at answer
      exact ⟨d, others, reached, rfl, by rw [later], (Except.ok.inj answer).symm, by rw [later]⟩

/-- The decisions of a sweep are timed, whatever listeners do; by induction over the keys. -/
theorem timed_decideAll {keys : List String} {h : Host} {decisions : List (String × Decision)}
    (answer
      : (h.decideAll s (perform s depth) id snapshot environment context now keys).1
        = .ok decisions)
    : ∃ made,
        made.map Prod.snd = decisions
        ∧ Timed s snapshot environment context now h.readings
            (h.decideAll s (perform s depth) id snapshot environment context now keys).2.readings
            made := by
  have follows := readings_perform s depth
  induction keys generalizing h decisions with
  | nil =>
      obtain rfl := Except.ok.inj answer
      exact ⟨[], rfl, .nil⟩
  | cons key rest ih =>
      obtain ⟨d, others, reached, first, later, rfl, last⟩ := exists_of_decideAll_cons answer
      obtain ⟨made, same, timed⟩ := ih later
      have decided := h.decide_fst s (perform s depth) id (some snapshot) key environment context
        (.bool false) now
      have step := follows_decide (s := s) aboutEngines_readings follows id (some snapshot) key
        environment context (.bool false) now h
      have rising := follows_decideAll (s := s) aboutEngines_readings follows id snapshot
        environment context now rest reached
      rw [first] at decided step
      rw [last]
      exact ⟨(h.readings, key, d) :: made, by rw [List.map_cons, same],
        timed.cons decided.symm step rising⟩

theorem timed_evaluateAll {h : Host} (held : (h.engine id).snapshot = some snapshot)
    {decisions : List (String × Decision)}
    (answer
      : (h.evaluateAll s (perform s depth) id environment context now).1 = .ok decisions)
    : ∃ made,
        made.map Prod.snd = decisions
        ∧ Timed s snapshot environment context (h.askedMoment id now) h.readings
            (h.evaluateAll s (perform s depth) id environment context now).2.readings made := by
  unfold evaluateAll at answer ⊢
  rw [held] at answer ⊢
  dsimp only at answer ⊢
  rw [clockMoment_fst] at answer ⊢
  have timed := timed_decideAll answer
  rwa [readings_clockMoment] at timed

theorem perform_evaluateAll_eq_ok {h : Host} {decisions : List (String × Decision)}
    (answer
      : (h.perform s (depth + 1) (.evaluateAll id environment context now)).1
        = .ok (.decisions decisions))
    : (h.evaluateAll s (perform s depth) id environment context now).1 = .ok decisions := by
  change (h.evaluateAll s (perform s depth) id environment context now).1.map Answer.decisions = _
    at answer
  cases outcome : (h.evaluateAll s (perform s depth) id environment context now).1 with
  | error e =>
      rw [outcome] at answer
      contradiction
  | ok ds =>
      rw [outcome] at answer
      cases answer
      rfl

end

end Host

end FeatureFlags
