import FeatureFlags.Proofs.Engine.Traces

/-! The offers of snapshots that calls make to one engine: those of the calls themselves and those
that listeners make in turn while they hear of decisions, in the order in which they happen. Offers
are all that changes the slot of the engine. Whatever else calls do leaves it alone.
-/

namespace FeatureFlags

/-- A snapshot that is offered to an engine, and the host in which that happens. -/
structure Offer where
  snapshot : Snapshot
  found : Host

namespace Offer

variable (id : Engine.Id) (o : Offer)

/-- What the offer is answered. -/
def outcome : Except Failure (Option Snapshot) := (o.found.publish id o.snapshot).1

/-- The host after the offer. -/
def left : Host := (o.found.publish id o.snapshot).2

/-- Whether the snapshot was published. -/
def accepted : Bool := (o.outcome id).isOk

end Offer

-----------------------------------------------------------------------------------------
-- The offers of calls
-----------------------------------------------------------------------------------------

/-- The offer to one engine that a call makes by itself, if it makes one. -/
def Offer.madeTo (target : Engine.Id) : Tracer Offer
  | .load id snapshot, h | .publish id snapshot, h => if id = target then [⟨snapshot, h⟩] else []
  | _, _ => []

namespace Host

/-- The offers to one engine that a call makes whose listeners may nest calls so deeply. -/
def offers (s : Surroundings) (target : Engine.Id) : Nat → Tracer Offer :=
  trace s (Offer.madeTo target)

/-- The offers to one engine during a run. -/
def runOffers (s : Surroundings) (target : Engine.Id) : List Call → Host → List Offer :=
  runTrace s (Offer.madeTo target)

end Host

-----------------------------------------------------------------------------------------
-- Hosts from offer to offer
-----------------------------------------------------------------------------------------

/-- The engine is still there, holds the same snapshot, and is as strict as before. -/
structure Host.Undisturbed (id : Engine.Id) (h h' : Host) : Prop where
  count : h'.engines.length = h.engines.length
  snapshot : (h'.engine id).snapshot = (h.engine id).snapshot
  rejectsStale : (h'.engine id).rejectsStale = (h.engine id).rejectsStale

/-- From the first host to the last one, nothing but these offers happens to the engine. -/
def Host.Through (id : Engine.Id) : Host → List Offer → Host → Prop
  | h, [], h' => Undisturbed id h h'
  | h, o :: rest, h' => Undisturbed id h o.found ∧ Through id (o.left id) rest h'

namespace Host

variable {id : Engine.Id} {h h₁ h₂ h' : Host}

theorem Undisturbed.refl (id : Engine.Id) (h : Host) : Undisturbed id h h := ⟨rfl, rfl, rfl⟩

theorem Undisturbed.trans (first : Undisturbed id h h₁) (second : Undisturbed id h₁ h₂)
    : Undisturbed id h h₂ :=
  ⟨second.count.trans first.count, second.snapshot.trans first.snapshot,
    second.rejectsStale.trans first.rejectsStale⟩

theorem Undisturbed.there (same : Undisturbed id h h') (there : id < h.engines.length)
    : id < h'.engines.length :=
  same.count ▸ there

theorem Alike.undisturbed (alike : h.Alike h') (id : Engine.Id) : Undisturbed id h h' := by
  obtain ⟨readings, same⟩ := alike.engines id
  exact ⟨alike.count, by rw [same], by rw [same]⟩

/-- An engine may change in all but its slot and its strictness. -/
theorem undisturbed_setEngine {other : Engine.Id} {e : Engine}
    (snapshot : e.snapshot = (h.engine other).snapshot)
    (rejectsStale : e.rejectsStale = (h.engine other).rejectsStale)
    : Undisturbed id h (h.setEngine other e) :=
  ⟨length_setEngine h other e, apply_engine_setEngine Engine.snapshot snapshot id,
    apply_engine_setEngine Engine.rejectsStale rejectsStale id⟩

theorem Undisturbed.before {offers : List Offer} (first : Undisturbed id h h₁)
    (rest : Through id h₁ offers h₂)
    : Through id h offers h₂ := by
  cases offers with
  | nil => exact first.trans rest
  | cons o offers => exact ⟨first.trans rest.1, rest.2⟩

/-- Offers that happen one after the other, by induction over the first ones. -/
theorem Through.append {offers others : List Offer} (first : Through id h offers h₁)
    (second : Through id h₁ others h₂)
    : Through id h (offers ++ others) h₂ := by
  induction offers generalizing h with
  | nil => exact Undisturbed.before first second
  | cons o offers ih => exact ⟨first.1, ih first.2⟩

/-- Up to each offer nothing but the earlier ones happens, and after it nothing but the later ones.
-/
theorem Through.split {before after : List Offer} {o : Offer}
    (through : Through id h (before ++ o :: after) h')
    : Through id h before o.found ∧ Through id (o.left id) after h' := by
  induction before generalizing h with
  | nil => exact through
  | cons a before ih =>
      obtain ⟨former, latter⟩ := ih through.2
      exact ⟨⟨through.1, former⟩, latter⟩

-----------------------------------------------------------------------------------------
-- Calls make no difference but by their offers
-----------------------------------------------------------------------------------------

theorem aboutEngines_through (id : Engine.Id) : AboutEngines (Through id) where
  refl := Undisturbed.refl id
  append := Through.append
  quiet quiet := (alike_of_engines quiet.engines).undisturbed id

theorem undisturbed_removeListener (other : Engine.Id) (l : Listener) (h : Host)
    : Undisturbed id h (h.removeListener other l).2 := by
  unfold removeListener
  dsimp only
  split
  · exact undisturbed_setEngine rfl rfl
  · exact Undisturbed.refl id h

/-- Publishing is an offer to the engine, or it is about another one. -/
theorem through_publish (id other : Engine.Id) (snapshot : Snapshot) (h : Host)
    : Through id h (if other = id then [⟨snapshot, h⟩] else []) (h.publish other snapshot).2 := by
  by_cases same : other = id
  · subst same
    rw [if_pos rfl]
    exact ⟨Undisturbed.refl other h, Undisturbed.refl other _⟩
  · rw [if_neg same]
    have alone := engine_publish_of_ne same h snapshot
    exact ⟨length_publish h other snapshot, by rw [alone], by rw [alone]⟩

/-- Nothing but its offer happens to the engine by a single call, by cases on the call. -/
theorem through_alone (id : Engine.Id) (c : Call) (h : Host)
    : Through id h (Offer.madeTo id c h) (c.alone h) := by
  cases c with
  | load other snapshot => exact through_publish id other snapshot h
  | publish other snapshot => exact through_publish id other snapshot h
  | addListener other l => exact undisturbed_setEngine rfl rfl
  | removeListener other l => exact undisturbed_removeListener other l h
  | evaluate other _ _ _ _ now => exact (alike_clockMoment other now h).undisturbed id
  | evaluateAll other _ _ now => exact (alike_sweepStart other now h).undisturbed id
  | value _ other => exact (alike_clockMoment other none h).undisturbed id
  | isEnabled other => exact (alike_clockMoment other none h).undisturbed id

/-- Nothing but its offers happens to an engine during a run. -/
theorem through_run (s : Surroundings) (id : Engine.Id) (calls : List Call) (h : Host)
    : Through id h (h.runOffers s id calls) (h.run s calls).2 :=
  follows_run (aboutEngines_through id) (through_alone id) s calls h

end Host

end FeatureFlags
