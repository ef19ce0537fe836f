import FeatureFlags.Proofs.Engine.Traces
import FeatureFlags.Proofs.Evaluation.Locality

/-! The version tag of log lines. However calls are nested, the tag is after each of them what it was
before, also if the call fails; and whoever hears of a decision does so under the version of the
snapshot from which this decision was made.
-/

namespace FeatureFlags

-----------------------------------------------------------------------------------------
-- Calls and the decisions for which they ask
-----------------------------------------------------------------------------------------

/-- A call and the host in which it is made. -/
structure Made where
  call : Call
  found : Host

/-- All calls to which a call leads, itself first, in the order in which they are made. -/
def Host.made (s : Surroundings) : Nat → Tracer Made := trace s fun c h => [⟨c, h⟩]

/-- The call asks an engine for the decision about a flag. -/
inductive Call.AsksFor (id : Engine.Id) (flagKey environment : String) (context : Context)
    : Datum → Call → Prop
  | evaluate (fallback : Datum) (now : Option Moment)
    : AsksFor id flagKey environment context fallback
        (.evaluate id flagKey environment context fallback now)
  | evaluateAll (now : Option Moment)
    : AsksFor id flagKey environment context (.bool false)
        (.evaluateAll id environment context now)
  | value (kind : Flag.Kind) (fallback : Datum)
    : AsksFor id flagKey environment context fallback
        (.value kind id flagKey environment context fallback)
  | isEnabled
    : AsksFor id flagKey environment context (.bool false)
        (.isEnabled id flagKey environment context)

/-- The decision that is heard of is one for which the call asks. It was made from the snapshot that
the engine held when the call was made, and the version of that snapshot is bound.
-/
def Hearing.StemsFrom (x : Hearing) (m : Made) : Prop :=
  ∃ id flagKey environment fallback moment,
    m.call.AsksFor id flagKey environment x.context fallback
    ∧ (evaluate (m.found.engine id).snapshot flagKey environment x.context fallback moment).result
      = .ok x.decision
    ∧ x.boundVersion = Host.tag (m.found.engine id).snapshot

/-- The version text that a hearing finds is that of its decision. -/
theorem Hearing.StemsFrom.boundVersion {x : Hearing} {m : Made} (stems : x.StemsFrom m)
    : x.boundVersion = (x.decision.snapshotVersion.map toString).getD "" := by
  obtain ⟨id, flagKey, environment, fallback, moment, -, decided, bound⟩ := stems
  rw [bound, Evaluation.snapshotVersion_of_evaluate decided, Option.map_map]
  rfl

namespace Host

/-- The version that is bound is the same as before, and all that was heard meanwhile stems from one
of the calls.
-/
structure Balanced (h : Host) (made : List Made) (h' : Host) : Prop where
  boundVersion : h'.boundVersion = h.boundVersion
  heard : ∃ news, h'.heard = h.heard ++ news ∧ ∀ x ∈ news, ∃ m ∈ made, x.StemsFrom m

section

variable {h h₁ h₂ : Host} {made more : List Made}

theorem Balanced.of_unheard (unheard : Unheard h h₁) : Balanced h made h₁ :=
  ⟨unheard.boundVersion, [], by rw [unheard.heard, List.append_nil], by simp⟩

theorem Balanced.append (first : Balanced h made h₁) (second : Balanced h₁ more h₂)
    : Balanced h (made ++ more) h₂ := by
  obtain ⟨news, heard, stem⟩ := first.heard
  obtain ⟨others, later, laterStem⟩ := second.heard
  refine ⟨second.boundVersion.trans first.boundVersion, news ++ others, ?_, ?_⟩
  · rw [later, heard, List.append_assoc]
  · intro x member
    rcases List.mem_append.mp member with early | late
    · obtain ⟨m, among, stems⟩ := stem x early
      exact ⟨m, List.mem_append_left more among, stems⟩
    · obtain ⟨m, among, stems⟩ := laterStem x late
      exact ⟨m, List.mem_append_right made among, stems⟩

theorem Balanced.mono (balanced : Balanced h made h₁) (within : made ⊆ more)
    : Balanced h more h₁ := by
  obtain ⟨news, heard, stem⟩ := balanced.heard
  refine ⟨balanced.boundVersion, news, heard, ?_⟩
  intro x member
  obtain ⟨m, among, stems⟩ := stem x member
  exact ⟨m, within among, stems⟩

theorem composes_balanced : Composes Balanced where
  refl _ := .of_unheard ⟨rfl, rfl⟩
  append := Balanced.append

/-- Two stretches that both may stem from the same call. -/
theorem Balanced.append_under {m : Made} (first : Balanced h (m :: made) h₁)
    (second : Balanced h₁ (m :: more) h₂)
    : Balanced h (m :: (made ++ more)) h₂ := by
  refine (first.append second).mono ?_
  intro other
  simp only [List.mem_append, List.mem_cons]
  rintro ((rfl | early) | (rfl | late)) <;> simp_all

end

theorem balanced_clockMoment (id : Engine.Id) (now : Option Moment) (h : Host)
    : Balanced h [] (h.clockMoment id now).2 :=
  .of_unheard ⟨heard_clockMoment id now h, boundVersion_clockMoment id now h⟩

-----------------------------------------------------------------------------------------
-- Each level of a call is balanced
-----------------------------------------------------------------------------------------

section

variable {s : Surroundings} {perform : Performer} {tracer : Tracer Made}
  (follows : Follows Balanced perform tracer) {m : Made}

include follows

theorem balanced_tell {d : Decision} {context : Context} {l : Listener} {h : Host}
    (stems : (⟨l, d, context, h.boundVersion⟩ : Hearing).StemsFrom m)
    : Balanced h (m :: h.tellTrace s perform tracer d context l)
        (h.tell s perform d context l) := by
  have hearing : Balanced h [m] (h.hear l d context) := by
    refine ⟨rfl, [⟨l, d, context, h.boundVersion⟩], rfl, ?_⟩
    intro x member
    obtain rfl := List.mem_singleton.mp member
    exact ⟨m, List.mem_singleton_self m, stems⟩
  have reacting := hearing.append
    (follows_reaction composes_balanced follows (s.react l d context) (h.hear l d context))
  unfold tell
  dsimp only
  split
  · exact reacting
  · exact ⟨reacting.boundVersion, reacting.heard⟩

/-- All listeners find the same version, by list induction: those before them have put it back. -/
theorem balanced_notify {d : Decision} {context : Context} (listeners : List Listener) {h : Host}
    (stems : ∀ l, (⟨l, d, context, h.boundVersion⟩ : Hearing).StemsFrom m)
    : Balanced h (m :: h.notifyTrace s perform tracer d context listeners)
        (h.notify s perform d context listeners) := by
  induction listeners generalizing h with
  | nil => exact .of_unheard ⟨rfl, rfl⟩
  | cons l rest ih =>
      have first := balanced_tell (s := s) follows (stems l)
      refine first.append_under (ih ?_)
      intro other
      rw [first.boundVersion]
      exact stems other

variable {id : Engine.Id}

theorem balanced_decide {snapshot : Option Snapshot} {flagKey environment : String}
    {context : Context} {fallback : Datum}
    (asks : m.call.AsksFor id flagKey environment context fallback)
    (held : (m.found.engine id).snapshot = snapshot) (now : Option Moment) (h : Host)
    : Balanced h
        (m :: h.decideTrace s perform tracer id snapshot flagKey environment context fallback now)
        (h.decide s perform id snapshot flagKey environment context fallback now).2 := by
  subst held
  rw [decide_eq]
  unfold decideTrace
  dsimp only
  cases decided : (h.evaluation s (m.found.engine id).snapshot flagKey environment context fallback
      now).result with
  | error e =>
      exact .of_unheard ⟨heard_deciding s _ flagKey environment context fallback now h, rfl⟩
  | ok d =>
      have stems (l : Listener)
          : (⟨l, d, context,
              (h.deciding s (m.found.engine id).snapshot flagKey environment context fallback
                now).boundVersion⟩ : Hearing).StemsFrom m :=
        ⟨id, flagKey, environment, fallback, _, asks, decided,
          boundVersion_deciding s _ flagKey environment context fallback now h⟩
      have telling := balanced_notify (s := s) follows (h.engine id).listeners stems
      obtain ⟨news, heard, stem⟩ := telling.heard
      rw [heard_deciding] at heard
      exact ⟨rfl, news, heard, stem⟩

theorem balanced_evaluateFlag {c : Call} {flagKey environment : String} {context : Context}
    {fallback : Datum} (asks : c.AsksFor id flagKey environment context fallback)
    (now : Option Moment) (h : Host)
    : Balanced h
        (⟨c, h⟩ :: h.evaluateFlagTrace s perform tracer id flagKey environment context fallback now)
        (h.evaluateFlag s perform id flagKey environment context fallback now).2 := by
  have deciding := balanced_decide (s := s) (m := ⟨c, h⟩) follows asks rfl (h.clockMoment id now).1
    (h.clockMoment id now).2
  exact (balanced_clockMoment id now h).append deciding

/-- Each decision of a sweep is balanced, by induction over the keys. -/
theorem balanced_decideAll {environment : String} {context : Context} {snapshot : Snapshot}
    (asks : ∀ flagKey, m.call.AsksFor id flagKey environment context (.bool false))
    (held : (m.found.engine id).snapshot = some snapshot) (now : Option Moment)
    (keys : List String) (h : Host)
    : Balanced h
        (m :: h.decideAllTrace s perform tracer id snapshot environment context now keys)
        (h.decideAll s perform id snapshot environment context now keys).2 := by
  induction keys generalizing h with
  | nil => exact .of_unheard ⟨rfl, rfl⟩
  | cons key rest ih =>
      have first := balanced_decide (s := s) follows (asks key) held now h
      unfold decideAll decideAllTrace
      generalize h.decide s perform id (some snapshot) key environment context (.bool false) now
        = decision at first ⊢
      obtain ⟨outcome, reached⟩ := decision
      cases outcome with
      | error e => simpa using first
      | ok d =>
          dsimp only at first ⊢
          have later := first.append_under (ih reached)
          generalize reached.decideAll s perform id snapshot environment context now rest
            = decisions at later ⊢
          obtain ⟨outcome, last⟩ := decisions
          cases outcome with
          | error e => exact later
          | ok others => exact later

theorem balanced_evaluateAll {c : Call} {environment : String} {context : Context}
    (asks : ∀ flagKey, c.AsksFor id flagKey environment context (.bool false))
    (now : Option Moment) (h : Host)
    : Balanced h
        (⟨c, h⟩ :: h.evaluateAllTrace s perform tracer id environment context now)
        (h.evaluateAll s perform id environment context now).2 := by
  unfold evaluateAll evaluateAllTrace
  cases held : (h.engine id).snapshot with
  | none => exact .of_unheard ⟨rfl, rfl⟩
  | some snapshot =>
      have deciding := balanced_decideAll (s := s) (m := ⟨c, h⟩) follows asks held
        (h.clockMoment id now).1 (snapshot.flagKeysIn environment) (h.clockMoment id now).2
      exact (balanced_clockMoment id now h).append deciding

theorem balanced_valueOfKind {c : Call} {flagKey environment : String} {context : Context}
    {fallback : Datum} (asks : c.AsksFor id flagKey environment context fallback)
    (kind : Flag.Kind) (h : Host)
    : Balanced h
        (⟨c, h⟩ :: h.evaluateFlagTrace s perform tracer id flagKey environment context fallback none)
        (h.valueOfKind s perform kind id flagKey environment context fallback).2 := by
  have evaluating := balanced_evaluateFlag (s := s) follows asks none h
  unfold valueOfKind
  generalize h.evaluateFlag s perform id flagKey environment context fallback none = evaluation
    at evaluating ⊢
  obtain ⟨outcome, reached⟩ := evaluation
  cases outcome with
  | error e => exact evaluating
  | ok d =>
      dsimp only
      split
      · exact evaluating
      · exact ⟨evaluating.boundVersion, evaluating.heard⟩

end

/-- However deeply calls are nested, they are balanced; by induction over the depth, one case for each
kind of call.
-/
theorem balanced_perform (s : Surroundings) (depth : Nat)
    : Follows Balanced (perform s depth) (made s depth) := by
  induction depth with
  | zero => exact fun c h => .of_unheard ⟨rfl, rfl⟩
  | succ depth ih =>
      intro c h
      cases c with
      | evaluate id flagKey environment context fallback now =>
          exact balanced_evaluateFlag ih (.evaluate fallback now) now h
      | evaluateAll id environment context now =>
          exact balanced_evaluateAll ih (fun _ => .evaluateAll now) now h
      | value kind id flagKey environment context fallback =>
          exact balanced_valueOfKind ih (.value kind fallback) kind h
      | isEnabled id flagKey environment context =>
          exact balanced_evaluateFlag ih .isEnabled none h
      | load id snapshot => exact .of_unheard (unheard_publish id snapshot h)
      | publish id snapshot => exact .of_unheard (unheard_publish id snapshot h)
      | addListener id l => exact .of_unheard ⟨rfl, rfl⟩
      | removeListener id l => exact .of_unheard (unheard_removeListener id l h)

end Host

/-- The version tag is balanced. Take any call, nested however deeply, to any engines, with whatever
listeners do and whatever fails. Afterwards the version that is bound is the one from before. Whoever
has heard of a decision meanwhile found the version of that decision bound, and this is the version
of the snapshot that the engine held when it was asked for the decision, and from which the decision
was made.
-/
theorem versionTagIsBalanced (s : Surroundings) (depth : Nat) (call : Call) (h : Host)
    : (h.perform s depth call).2.boundVersion = h.boundVersion
      ∧ ∃ news,
          (h.perform s depth call).2.heard = h.heard ++ news
          ∧ ∀ x ∈ news,
              x.boundVersion = (x.decision.snapshotVersion.map toString).getD ""
              ∧ ∃ m ∈ Host.made s depth call h, x.StemsFrom m := by
  have balanced := Host.balanced_perform s depth call h
  obtain ⟨news, heard, stem⟩ := balanced.heard
  refine ⟨balanced.boundVersion, news, heard, ?_⟩
  intro x member
  obtain ⟨m, among, stems⟩ := stem x member
  exact ⟨stems.boundVersion, m, among, stems⟩

namespace Sample

/-- When it hears of version 1, one listener publishes version 2, asks for a decision in turn, and fails. -/
def upstart : Surroundings where
  react l d _ :=
    if l = ⟨"upstart"⟩ ∧ d.snapshotVersion = some 1 then
      .call (.publish 0 ⟨2, ∅, ∅, ∅⟩) fun _ =>
        .call (.isEnabled 0 "theme" "production" .empty) fun _ => .failed
    else .done
  present _ := newYear.toMoment
  depth := 1

/-- A process whose engine holds version 1 and has two listeners. -/
def audience : Host :=
  { Host.empty with
    engines :=
      [{ Engine.empty with
          snapshot := some ⟨1, ∅, ∅, ∅⟩
          listeners := [⟨"upstart"⟩, ⟨"witness"⟩] }] }

end Sample

/-- Both listeners hear of the inner decision under version 2, and then the second one still hears of the
outer decision under version 1.
-/
example
    : (Sample.audience.perform Sample.upstart 2
          (.isEnabled 0 "theme" "production" .empty)).2.heard.map
        (fun x => (x.listener.name, x.boundVersion))
      = [("upstart", "1"), ("upstart", "2"), ("witness", "2"), ("witness", "1")] := by
  rfl

end FeatureFlags
