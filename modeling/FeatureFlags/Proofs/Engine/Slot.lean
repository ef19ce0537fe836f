import FeatureFlags.Engine.Basic
import Mathlib.Data.List.Basic
import Mathlib.Data.List.Nodup

/-! The slot of an engine: what one offer of a snapshot does to it, and what a sequence of offers
leaves in it. A strict slot ends up with the greatest version that it ever saw, whatever the order
of the offers.
-/

namespace FeatureFlags

-----------------------------------------------------------------------------------------
-- Sequences of offers
-----------------------------------------------------------------------------------------

namespace Slot

/-- Whether a slot takes a snapshot; a strict one takes only a newer one than it holds. -/
def takes (strict : Bool) (slot : Option Snapshot) (offered : Snapshot) : Bool :=
  !(strict && slot.any fun active => decide (offered.version ≤ active.version))

/-- What the slot holds after an offer. -/
def after (strict : Bool) (slot : Option Snapshot) (offered : Snapshot) : Option Snapshot :=
  if takes strict slot offered then some offered else slot

/-- What the slot holds after several offers, one after the other. -/
def afterAll (strict : Bool) (slot : Option Snapshot) (offers : List Snapshot) : Option Snapshot :=
  offers.foldl (after strict) slot

variable {slot : Option Snapshot} {offered : Snapshot}

theorem takes_iff
    : takes true slot offered = true
      ↔ ∀ active, slot = some active → active.version < offered.version := by
  cases slot <;> simp [takes]

theorem takes_of_lenient (slot : Option Snapshot) (offered : Snapshot)
    : takes false slot offered = true :=
  rfl

theorem after_none (offered : Snapshot) : after true none offered = some offered := rfl

theorem after_some (active offered : Snapshot)
    : after true (some active) offered
      = if active.version < offered.version then some offered else some active := by
  simp [after, takes]

/-- A strict slot ends up with the greatest version, by induction over the offers. -/
theorem version_afterAll (slot : Option Snapshot) (offers : List Snapshot)
    : (afterAll true slot offers).map Snapshot.version
      = ((slot.toList ++ offers).map Snapshot.version).max? := by
  induction offers generalizing slot with
  | nil => cases slot <;> simp [afterAll]
  | cons offered rest ih =>
      change (afterAll true (after true slot offered) rest).map Snapshot.version = _
      rw [ih]
      cases slot with
      | none => simp [after_none]
      | some active =>
          rw [after_some]
          by_cases newer : active.version < offered.version
          · have greater : max active.version offered.version = offered.version := by omega
            simp only [newer, if_true, Option.toList_some, List.cons_append, List.nil_append,
              List.map_cons, List.max?_cons', List.foldl_cons, greater]
          · have greater : max active.version offered.version = active.version := by omega
            simp only [newer, if_false, Option.toList_some, List.cons_append, List.nil_append,
              List.map_cons, List.max?_cons', List.foldl_cons, greater]

/-- A strict slot takes an offer exactly when it is newer than all before and than the first
content.
-/
theorem takes_afterAll_iff {offers : List Snapshot}
    : takes true (afterAll true slot offers) offered = true
      ↔ ∀ earlier ∈ slot.toList ++ offers, earlier.version < offered.version := by
  have greatest := version_afterAll slot offers
  rw [takes_iff]
  cases held : afterAll true slot offers with
  | none =>
      rw [held, Option.map_none, eq_comm, List.max?_eq_none_iff, List.map_eq_nil_iff] at greatest
      simp [greatest]
  | some active =>
      rw [held, Option.map_some, eq_comm, List.max?_eq_some_iff] at greatest
      obtain ⟨attained, bound⟩ := greatest
      simp only [Option.some.injEq, forall_eq']
      constructor
      · intro newer earlier member
        exact Int.lt_of_le_of_lt (bound _ (List.mem_map_of_mem member)) newer
      · intro newer
        obtain ⟨earlier, member, same⟩ := List.mem_map.mp attained
        rw [← same]
        exact newer earlier member

/-- Two offers of different versions to a strict slot may be exchanged. -/
theorem after_right_comm (slot : Option Snapshot) {a b : Snapshot} (apart : a.version ≠ b.version)
    : after true (after true slot a) b = after true (after true slot b) a := by
  cases slot with
  | none =>
      simp only [after_none, after_some]
      by_cases order : a.version < b.version
      · have other : ¬ b.version < a.version := by omega
        simp [order, other]
      · have other : b.version < a.version := by omega
        simp [order, other]
  | some active =>
      rw [after_some, after_some]
      by_cases first : active.version < a.version <;>
        by_cases second : active.version < b.version <;>
        simp only [first, second, if_true, if_false, after_some] <;>
        grind

/-- The order of offers to a strict slot does not matter, as long as their versions differ. -/
theorem afterAll_perm {offers others : List Snapshot} (perm : offers.Perm others)
    (distinct : (offers.map Snapshot.version).Nodup) (slot : Option Snapshot)
    : afterAll true slot offers = afterAll true slot others := by
  refine perm.foldl_eq' ?_ slot
  intro a first b second held
  by_cases same : a.version = b.version
  · rw [List.inj_on_of_nodup_map distinct first second same]
  · exact after_right_comm held same

end Slot

-----------------------------------------------------------------------------------------
-- Publishing
-----------------------------------------------------------------------------------------

namespace Host

variable {h : Host} {id : Engine.Id}

@[simp] theorem engines_write (h : Host) (events : List Event)
    : (h.write events).engines = h.engines :=
  rfl

@[simp] theorem length_setEngine (h : Host) (id : Engine.Id) (e : Engine)
    : (h.setEngine id e).engines.length = h.engines.length :=
  List.length_set

theorem engine_setEngine (there : id < h.engines.length) (e : Engine)
    : (h.setEngine id e).engine id = e := by
  simp [setEngine, engine, there]

theorem engine_setEngine_of_ne {other : Engine.Id} (different : other ≠ id) (e : Engine)
    : (h.setEngine other e).engine id = h.engine id := by
  simp [setEngine, engine, List.getD, List.getElem?_set_ne different]

/-- What the new engine has in common with the former one stays the same for every engine. -/
theorem apply_engine_setEngine {α : Sort*} (f : Engine → α) {other : Engine.Id} {e : Engine}
    (common : f e = f (h.engine other)) (id : Engine.Id)
    : f ((h.setEngine other e).engine id) = f (h.engine id) := by
  by_cases same : other = id
  · subst same
    by_cases there : other < h.engines.length
    · rw [engine_setEngine there, common]
    · have kept : (h.setEngine other e).engines = h.engines :=
        List.set_eq_of_length_le (Nat.le_of_not_lt there)
      simp only [engine, kept]
  · rw [engine_setEngine_of_ne same]

/-- All that publishing can do. Either the slot takes the snapshot, and the answer is the former one; or
the snapshot is stale, and no engine changes.
-/
theorem publish_cases (h : Host) (id : Engine.Id) (offered : Snapshot)
    : (Slot.takes (h.engine id).rejectsStale (h.engine id).snapshot offered = true
        ∧ h.publish id offered
          = (.ok (h.engine id).snapshot,
            (h.setEngine id { h.engine id with snapshot := some offered }).write
              [published (h.engine id).snapshot offered]))
      ∨ (Slot.takes (h.engine id).rejectsStale (h.engine id).snapshot offered = false
        ∧ ∃ active,
            (h.engine id).snapshot = some active
            ∧ h.publish id offered
              = (.error (staleFault active offered), h.write [stale active offered])) := by
  unfold publish
  cases held : (h.engine id).snapshot with
  | none => exact Or.inl ⟨by simp [Slot.takes], by simp only [held]⟩
  | some active =>
      cases older
          : (h.engine id).rejectsStale && Decidable.decide (offered.version ≤ active.version) with
      | false =>
          refine Or.inl ⟨?_, ?_⟩
          · simp only [Slot.takes, Option.any_some, older, Bool.not_false]
          · simp only [held, older, Bool.false_eq_true, if_false]
      | true =>
          refine Or.inr ⟨?_, active, rfl, ?_⟩
          · simp only [Slot.takes, Option.any_some, older, Bool.not_true]
          · simp only [held, older, if_true]

/-- Publishing changes nothing about an engine but what its slot holds. -/
theorem engine_publish (there : id < h.engines.length) (offered : Snapshot)
    : (h.publish id offered).2.engine id
      = { h.engine id with
          snapshot := Slot.after (h.engine id).rejectsStale (h.engine id).snapshot offered } := by
  unfold Slot.after
  rcases publish_cases h id offered with ⟨taken, done⟩ | ⟨refused, active, -, done⟩
  · rw [done, taken]
    exact engine_setEngine there _
  · rw [done, refused]
    rfl

theorem length_publish (h : Host) (id : Engine.Id) (offered : Snapshot)
    : (h.publish id offered).2.engines.length = h.engines.length := by
  rcases publish_cases h id offered with ⟨-, done⟩ | ⟨-, active, -, done⟩
  · simp [done]
  · simp [done]

/-- Publishing to another engine leaves this one alone. -/
theorem engine_publish_of_ne {other : Engine.Id} (different : other ≠ id) (h : Host)
    (offered : Snapshot)
    : (h.publish other offered).2.engine id = h.engine id := by
  rcases publish_cases h other offered with ⟨-, done⟩ | ⟨-, active, -, done⟩
  · rw [done]
    exact engine_setEngine_of_ne different _
  · rw [done]
    rfl

/-- What does not depend on the slot stays the same for every engine. -/
theorem apply_engine_publish {α : Sort*} (f : Engine → α)
    (blind : ∀ e slot, f { e with snapshot := slot } = f e) (other id : Engine.Id)
    (offered : Snapshot) (h : Host)
    : f ((h.publish other offered).2.engine id) = f (h.engine id) := by
  rcases publish_cases h other offered with ⟨-, done⟩ | ⟨-, active, -, done⟩
  · rw [done]
    exact apply_engine_setEngine f (blind (h.engine other) (some offered)) id
  · rw [done]
    rfl

/-- Publishing succeeds exactly when the slot takes the snapshot. -/
theorem exists_publish_eq_ok_iff {offered : Snapshot}
    : (∃ former, (h.publish id offered).1 = .ok former)
      ↔ Slot.takes (h.engine id).rejectsStale (h.engine id).snapshot offered = true := by
  rcases publish_cases h id offered with ⟨taken, done⟩ | ⟨refused, active, -, done⟩
  · simp [done, taken]
  · simp [done, refused]

end Host

end FeatureFlags
