import FeatureFlags.Proofs.Engine.Offers
import Mathlib.Data.List.Induction

/-! The discipline of the active slot over whole runs. Whatever else is called meanwhile, and
whoever makes the offers, the slot of an engine holds what the offers alone would have left in it.
-/

namespace FeatureFlags

-----------------------------------------------------------------------------------------
-- Single offers
-----------------------------------------------------------------------------------------

namespace Offer

variable {id : Engine.Id} {o : Offer}

theorem accepted_iff
    : o.accepted id = true
      ↔ Slot.takes (o.found.engine id).rejectsStale (o.found.engine id).snapshot o.snapshot
        = true := by
  rw [← Host.exists_publish_eq_ok_iff, accepted, outcome]
  cases (o.found.publish id o.snapshot).1 with
  | ok former => exact iff_of_true rfl ⟨former, rfl⟩
  | error e => exact iff_of_false Bool.false_ne_true nofun

theorem left_there (o : Offer) (there : id < o.found.engines.length)
    : id < (o.left id).engines.length := by
  rw [left, Host.length_publish]
  exact there

/-- A successful offer is answered with the superseded snapshot, and only the slot changes. -/
theorem of_ok (there : id < o.found.engines.length) {former : Option Snapshot}
    (succeeded : o.outcome id = .ok former)
    : former = (o.found.engine id).snapshot
      ∧ (o.left id).engine id = { o.found.engine id with snapshot := some o.snapshot } := by
  unfold outcome at succeeded
  unfold left
  rcases Host.publish_cases o.found id o.snapshot with ⟨-, done⟩ | ⟨-, active, -, done⟩
  · rw [done] at succeeded ⊢
    exact ⟨(Except.ok.inj succeeded).symm, Host.engine_setEngine there _⟩
  · rw [done] at succeeded
    contradiction

/-- A refused offer is answered with the fault that it is stale, and no engine changes. -/
theorem of_error {e : Failure} (failed : o.outcome id = .error e)
    : ∃ active,
        (o.found.engine id).snapshot = some active
        ∧ e = Host.staleFault active o.snapshot
        ∧ (o.left id).engines = o.found.engines := by
  unfold outcome at failed
  unfold left
  rcases Host.publish_cases o.found id o.snapshot with ⟨-, done⟩ | ⟨-, active, held, done⟩
  · rw [done] at failed
    contradiction
  · rw [done] at failed ⊢
    exact ⟨active, held, (Except.error.inj failed).symm, rfl⟩

end Offer

-----------------------------------------------------------------------------------------
-- The slot between offers
-----------------------------------------------------------------------------------------

namespace Host

variable {id : Engine.Id} {h h' : Host} {offers : List Offer}

/-- The engine at the end of a stretch of calls: its slot is what the offers leave in it, by
induction over them.
-/
theorem Through.slot (through : Through id h offers h') (there : id < h.engines.length)
    : id < h'.engines.length
      ∧ (h'.engine id).rejectsStale = (h.engine id).rejectsStale
      ∧ (h'.engine id).snapshot
        = Slot.afterAll (h.engine id).rejectsStale (h.engine id).snapshot
            (offers.map Offer.snapshot) := by
  induction offers generalizing h with
  | nil => exact ⟨through.count ▸ there, through.rejectsStale, through.snapshot⟩
  | cons o rest ih =>
      obtain ⟨reached, later⟩ := through
      have foundThere := reached.there there
      have offering := engine_publish foundThere o.snapshot
      change (o.left id).engine id = _ at offering
      obtain ⟨still, strict, held⟩ := ih later (o.left_there foundThere)
      rw [offering] at strict held
      rw [reached.rejectsStale] at strict held
      rw [reached.snapshot] at held
      exact ⟨still, strict, held⟩

/-- What is active is the snapshot that was accepted last, or else the first content of the slot; by
induction over the offers.
-/
theorem Through.active (through : Through id h offers h') (there : id < h.engines.length)
    : (h'.engine id).snapshot
      = ((offers.filter (Offer.accepted id)).map Offer.snapshot).getLast?.or
          (h.engine id).snapshot := by
  induction offers generalizing h with
  | nil => exact through.snapshot
  | cons o rest ih =>
      obtain ⟨reached, later⟩ := through
      have foundThere := reached.there there
      rw [ih later (o.left_there foundThere)]
      cases outcome : o.outcome id with
      | ok former =>
          have accepted : o.accepted id = true := by rw [Offer.accepted, outcome]; rfl
          rw [(Offer.of_ok foundThere outcome).2, List.filter_cons_of_pos accepted, List.map_cons,
            List.getLast?_cons]
          cases ((rest.filter (Offer.accepted id)).map Offer.snapshot).getLast? <;> rfl
      | error e =>
          have refused : ¬ o.accepted id = true := by rw [Offer.accepted, outcome]; nofun
          obtain ⟨active, -, -, same⟩ := Offer.of_error outcome
          have unchanged : (o.left id).engine id = o.found.engine id := by
            simp only [engine, same]
          rw [unchanged, reached.snapshot, List.filter_cons_of_neg refused]

-----------------------------------------------------------------------------------------
-- Runs
-----------------------------------------------------------------------------------------

section

variable (s : Surroundings) (id : Engine.Id) (calls later : List Call) (h : Host)

theorem runOffers_split {c : Call} {o : Offer}
    (single : Host.offers s id (s.depth + 1) c (h.run s calls).2 = [o])
    : h.runOffers s id (calls ++ c :: later)
      = h.runOffers s id calls ++ o :: ((h.run s calls).2.handle s c).2.runOffers s id later :=
  runTrace_split s (Offer.madeTo id) calls later h single

theorem offers_publish (depth : Nat) (snapshot : Snapshot)
    : Host.offers s id (depth + 1) (.publish id snapshot) h = [⟨snapshot, h⟩] := by
  simp [Host.offers, Host.trace, Offer.madeTo]

theorem offers_load (depth : Nat) (snapshot : Snapshot)
    : Host.offers s id (depth + 1) (.load id snapshot) h = [⟨snapshot, h⟩] := by
  simp [Host.offers, Host.trace, Offer.madeTo]

/-- Loading is publishing, only that the former snapshot is not told. -/
theorem handle_load (snapshot : Snapshot)
    : (h.handle s (.load id snapshot)).1 = (h.publish id snapshot).1.map fun _ => .done := by
  change ((h.publish id snapshot).1.map fun _ => ()).map (fun _ => Answer.done) = _
  cases (h.publish id snapshot).1 <;> rfl

end

end Host

/-- Members of a list that have a property are in order if each of them is in order with all before
it.
-/
theorem pairwise_filter_of_split {α : Type} {l : List α} {p : α → Bool} {R : α → α → Prop}
    (each : ∀ before a after, l = before ++ a :: after → p a = true → ∀ b ∈ before, R b a)
    : (l.filter p).Pairwise R := by
  induction l using List.reverseRecOn with
  | nil => exact List.Pairwise.nil
  | append_singleton l x ih =>
      have front := ih fun before a after split =>
        each before a (after ++ [x]) (by rw [split, List.append_assoc, List.cons_append])
      rw [List.filter_append, List.pairwise_append]
      refine ⟨front, ?_, ?_⟩
      · cases holds : p x <;> simp [holds]
      · intro b member a last
        obtain ⟨same, holds⟩ := List.mem_filter.mp last
        rw [List.mem_singleton] at same
        subst same
        exact each l a [] rfl holds b (List.mem_of_mem_filter member)

-----------------------------------------------------------------------------------------
-- The discipline
-----------------------------------------------------------------------------------------

/-- What becomes of an offer to an engine that rejects stale snapshots, given what its slot held
first and the offers that were made before. It finds the snapshot that was accepted last, and answers
with it if it succeeds; a refused one leaves all engines as they were.
-/
structure Offer.Disciplined (id : Engine.Id) (initial : Option Snapshot) (before : List Offer)
    (o : Offer) : Prop where
  succeeds_iff
    : (∃ former, o.outcome id = .ok former)
      ↔ ∀ earlier ∈ initial.toList ++ before.map Offer.snapshot,
          earlier.version < o.snapshot.version
  finds
    : (o.found.engine id).snapshot
      = ((before.filter (Offer.accepted id)).map Offer.snapshot).getLast?.or initial
  success
    : ∀ former, o.outcome id = .ok former
        → former = (o.found.engine id).snapshot
          ∧ (o.left id).engine id = { o.found.engine id with snapshot := some o.snapshot }
  rejection
    : ∀ e, o.outcome id = .error e
        → ∃ active,
            (o.found.engine id).snapshot = some active
            ∧ e = Host.staleFault active o.snapshot
            ∧ (o.left id).engines = o.found.engines

/-- Nothing but what came before decides about an offer. -/
theorem Host.Through.disciplined {id : Engine.Id} {h h' : Host} {before after : List Offer}
    {o : Offer} (through : h.Through id (before ++ o :: after) h')
    (there : id < h.engines.length) (strict : (h.engine id).rejectsStale = true)
    : o.Disciplined id (h.engine id).snapshot before := by
  have reaching := through.split.1
  obtain ⟨foundThere, foundStrict, held⟩ := reaching.slot there
  rw [strict] at foundStrict held
  refine ⟨?_, reaching.active there, fun former => Offer.of_ok foundThere,
    fun e => Offer.of_error⟩
  rw [Offer.outcome, Host.exists_publish_eq_ok_iff, foundStrict, held, Slot.takes_afterAll_iff]

theorem Host.Through.increasing {id : Engine.Id} {h h' : Host} {offers : List Offer}
    (through : h.Through id offers h') (there : id < h.engines.length)
    (strict : (h.engine id).rejectsStale = true)
    : ((h.engine id).snapshot.toList
          ++ (offers.filter (Offer.accepted id)).map Offer.snapshot).Pairwise
        fun a b => a.version < b.version := by
  have newer (before : List Offer) (o : Offer) (after : List Offer)
      (split : offers = before ++ o :: after) (accepted : o.accepted id = true)
      : ∀ earlier ∈ (h.engine id).snapshot.toList ++ before.map Offer.snapshot,
          earlier.version < o.snapshot.version := by
    subst split
    apply (through.disciplined there strict).succeeds_iff.mp
    exact Host.exists_publish_eq_ok_iff.mpr (Offer.accepted_iff.mp accepted)
  rw [List.pairwise_append]
  refine ⟨?_, ?_, ?_⟩
  · cases (h.engine id).snapshot <;> simp
  · rw [List.pairwise_map]
    apply pairwise_filter_of_split
    intro before o after split accepted a member
    exact newer before o after split accepted a.snapshot
      (List.mem_append_right _ (List.mem_map_of_mem member))
  · intro a initial b member
    obtain ⟨o, chosen, rfl⟩ := List.mem_map.mp member
    obtain ⟨offered, accepted⟩ := List.mem_filter.mp chosen
    obtain ⟨before, after, split⟩ := List.append_of_mem offered
    exact newer before o after split accepted a (List.mem_append_left _ initial)

/-- The discipline of the active slot. Take an engine of a host and any calls from outside, with
whatever listeners do in turn. A call to publish or load a snapshot is an offer, at the place in the
run where it is made, and its answer is that of the offer; only that loading does not tell the
former snapshot.

If the engine rejects stale snapshots, an offer succeeds exactly when its version exceeds that of
the first snapshot and of all offers before. Then it answers with the snapshot that it supersedes,
and otherwise with the fault that it is stale, while no engine changes. In the end the active
version is the greatest one, and published versions increase. If the versions of the offers differ,
every other run that makes the same offers in whatever order, from the same snapshot, ends with the
same one.

If the engine takes stale snapshots, all offers succeed and the last one is active in the end.
-/
theorem activeSnapshotFollowsOffers (s : Surroundings) (id : Engine.Id)
    (calls : List Call) (h : Host) (there : id < h.engines.length)
    : (∀ before snapshot after,
        (calls = before ++ .publish id snapshot :: after
          → ∃ o later,
              o.snapshot = snapshot
              ∧ o.found = (h.run s before).2
              ∧ h.runOffers s id calls = h.runOffers s id before ++ o :: later
              ∧ (h.run s calls).1[before.length]? = some ((o.outcome id).map .former))
        ∧ (calls = before ++ .load id snapshot :: after
          → ∃ o later,
              o.snapshot = snapshot
              ∧ o.found = (h.run s before).2
              ∧ h.runOffers s id calls = h.runOffers s id before ++ o :: later
              ∧ (h.run s calls).1[before.length]? = some ((o.outcome id).map fun _ => .done)))
      ∧ ((h.engine id).rejectsStale = true
        → (∀ before o after,
            h.runOffers s id calls = before ++ o :: after
            → o.Disciplined id (h.engine id).snapshot before)
          ∧ ((h.run s calls).2.engine id).version
            = (((h.engine id).snapshot.toList
                ++ (h.runOffers s id calls).map Offer.snapshot).map Snapshot.version).max?
          ∧ ((h.engine id).snapshot.toList
              ++ ((h.runOffers s id calls).filter (Offer.accepted id)).map
                Offer.snapshot).Pairwise (fun a b => a.version < b.version)
          ∧ ∀ (s' : Surroundings) (id' : Engine.Id) (calls' : List Call) (h' : Host),
              id' < h'.engines.length
              → (h'.engine id').rejectsStale = true
              → (h'.engine id').snapshot = (h.engine id).snapshot
              → ((h'.runOffers s' id' calls').map Offer.snapshot).Perm
                  ((h.runOffers s id calls).map Offer.snapshot)
              → (((h.runOffers s id calls).map Offer.snapshot).map Snapshot.version).Nodup
              → ((h'.run s' calls').2.engine id').snapshot
                  = ((h.run s calls).2.engine id).snapshot)
      ∧ ((h.engine id).rejectsStale = false
        → (∀ o ∈ h.runOffers s id calls, ∃ former, o.outcome id = .ok former)
          ∧ ((h.run s calls).2.engine id).snapshot
            = ((h.runOffers s id calls).map Offer.snapshot).getLast?.or
                (h.engine id).snapshot) := by
  have through := Host.through_run s id calls h
  obtain ⟨-, -, held⟩ := through.slot there
  refine ⟨?_, ?_, ?_⟩
  · intro before snapshot after
    constructor
    · rintro rfl
      have offering := Host.offers_publish s id (h.run s before).2 s.depth snapshot
      have answer := Host.getElem?_run s before after h (.publish id snapshot)
      exact ⟨_, _, rfl, rfl, Host.runOffers_split s id before after h offering, answer⟩
    · rintro rfl
      have offering := Host.offers_load s id (h.run s before).2 s.depth snapshot
      have answer := Host.getElem?_run s before after h (.load id snapshot)
      rw [Host.handle_load] at answer
      exact ⟨_, _, rfl, rfl, Host.runOffers_split s id before after h offering, answer⟩
  · intro strict
    rw [strict] at held
    refine ⟨?_, ?_, through.increasing there strict, ?_⟩
    · intro before o after split
      rw [split] at through
      exact through.disciplined there strict
    · rw [Engine.version, held, Slot.version_afterAll]
    · intro s' id' calls' h' there' strict' same perm distinct
      obtain ⟨-, -, held'⟩ := (Host.through_run s' id' calls' h').slot there'
      rw [held', strict', same, held]
      exact (Slot.afterAll_perm perm.symm distinct _).symm
  · intro lenient
    have succeeds (o : Offer) (member : o ∈ h.runOffers s id calls) : o.accepted id = true := by
      obtain ⟨before, after, split⟩ := List.append_of_mem member
      rw [split] at through
      obtain ⟨-, still, -⟩ := through.split.1.slot there
      rw [Offer.accepted_iff, still, lenient]
      exact Slot.takes_of_lenient _ _
    constructor
    · intro o member
      exact Host.exists_publish_eq_ok_iff.mpr (Offer.accepted_iff.mp (succeeds o member))
    · rw [through.active there, List.filter_eq_self.mpr succeeds]

namespace Sample

/-- An empty snapshot. -/
def blank (version : Int) : Snapshot := ⟨version, ∅, ∅, ∅⟩

/-- Whoever hears of a decision loads the third snapshot. -/
def reloading : Surroundings where
  react _ _ _ := .call (.load 0 (blank 3)) fun _ => .done
  present _ := ⟨⟨2000, 1, 1, by decide⟩, .midnight, some 0, none⟩
  depth := 1

/-- A process with one engine. -/
def process : Host := { Host.empty with engines := [.empty] }

/-- A process whose engine serves the first snapshot. -/
def serving : Host :=
  { Host.empty with engines := [{ Engine.empty with snapshot := some (blank 1) }] }

/-- Two snapshots in the wrong order, and between them a decision that someone hears of. -/
def calls : List Call :=
  [.publish 0 (blank 2), .addListener 0 ⟨"reload"⟩,
    .evaluate 0 "theme" "production" .empty .null none, .publish 0 (blank 1)]

end Sample

/-- Three offers are made, one of them by the listener, and the third version is active in the end.
-/
theorem sample_listener_publishes_the_greatest_version
    : 0 < Sample.process.engines.length
      ∧ (Sample.process.engine 0).rejectsStale = true
      ∧ (Sample.process.runOffers Sample.reloading 0 Sample.calls).map
          (fun o => o.snapshot.version) = [2, 3, 1]
      ∧ ((Sample.process.run Sample.reloading Sample.calls).2.engine 0).version = some 3 := by
  have there : 0 < Sample.process.engines.length := by decide
  obtain ⟨-, strict, -⟩ :=
    activeSnapshotFollowsOffers Sample.reloading 0 Sample.calls Sample.process there
  refine ⟨there, rfl, rfl, ?_⟩
  rw [(strict rfl).2.1]
  rfl

/-- A snapshot that is loaded supersedes the active one, but the call does not answer with it as the
same call to publish does.
-/
theorem loading_does_not_tell_the_superseded_snapshot
    : (Sample.serving.engine 0).rejectsStale = true
      ∧ (Sample.serving.engine 0).snapshot = some (Sample.blank 1)
      ∧ (Sample.serving.handle Sample.reloading (.publish 0 (Sample.blank 2))).1
        = .ok (.former (some (Sample.blank 1)))
      ∧ (Sample.serving.handle Sample.reloading (.load 0 (Sample.blank 2))).1 = .ok .done
      ∧ (Sample.serving.handle Sample.reloading (.load 0 (Sample.blank 2))).1
        ≠ .ok (.former (some (Sample.blank 1)))
      ∧ ((Sample.serving.handle Sample.reloading (.load 0 (Sample.blank 2))).2.engine 0).snapshot
        = some (Sample.blank 2) := by
  refine ⟨rfl, rfl, rfl, rfl, ?_, rfl⟩
  nofun

end FeatureFlags
