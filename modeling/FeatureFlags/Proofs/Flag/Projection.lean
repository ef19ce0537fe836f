import FeatureFlags.Proofs.Snapshot.Consistency

/-! The state that holds at a moment. For a moment with an offset it always exists, and it is given
by one comparison; committing the planned change at some moment is the same as having it planned, for
every other one at which a change that was due is due again. All moments from some instant on are
such, unless the change is planned by the clock of a place and that clock is set back.
-/

namespace FeatureFlags

/-- Moments with offsets can be compared. -/
theorem AwareMoment.le?_eq (m other : AwareMoment)
    : m.le? other.toMoment = some (m.notAfter other.toMoment) := by
  simp [Moment.le?, m.aware, other.aware]

namespace Moment

/-- Moments that share no clock are compared as instants. -/
theorem notAfter_iff {m other : Moment} (apart : m.sharesClock other = false)
    : m.notAfter other = true ↔ m.instant ≤ other.instant := by
  simp [notAfter, apart]

/-- Nothing shares a clock with a moment to which no place belongs. -/
theorem sharesClock_of_placeless (m : Moment) {other : Moment} (placeless : other.clock = none)
    : m.sharesClock other = false := by
  unfold sharesClock
  rw [placeless]
  cases m.clock <;> rfl

end Moment

namespace FlagState

/-- The state that holds at a moment with an offset, without a way to fail. -/
def projected (s : FlagState) (now : AwareMoment) : FlagState :=
  match s.scheduled with
  | some change => if change.effectiveAt.notAfter now.toMoment then s.apply change else s
  | none => s

/-- At a moment with an offset the state that holds is always found. -/
theorem effective_eq (s : FlagState) (now : AwareMoment)
    : s.effective now.toMoment = .ok (s.projected now) := by
  unfold effective due? projected
  cases s.scheduled with
  | none => rfl
  | some change =>
      by_cases due : change.effectiveAt.notAfter now.toMoment
      · simp [ScheduledChange.isDue, AwareMoment.le?_eq, due, Except.map]
      · simp [ScheduledChange.isDue, AwareMoment.le?_eq, due, Except.map]

@[simp] theorem killSwitch_projected (s : FlagState) (now : AwareMoment)
    : (s.projected now).killSwitch = s.killSwitch := by
  unfold projected
  split
  · split <;> rfl
  · rfl

/-- A state that suits a flag still does once its change is committed: each field is the committed
or the planned one, and both suit the flag.
-/
theorem Suits.apply {f : Flag} {known : List String} {s : FlagState} {change : ScheduledChange}
    (suits : s.Suits f known) (planned : s.scheduled = some change)
    : (s.apply change).Suits f known := by
  refine ⟨?_, ?_, ?_, ?_⟩
  · change f.Conforms (change.defaultValue.getD s.defaultValue)
    cases given : change.defaultValue with
    | none => exact suits.defaultValue
    | some value => exact suits.plannedDefault change planned value given
  · change f.Admits known (change.rules.getD s.rules).rules
    cases given : change.rules with
    | none => exact suits.rules
    | some rules => exact suits.plannedRules change planned rules given
  · intro later found
    simp [FlagState.apply] at found
  · intro later found
    simp [FlagState.apply] at found

theorem Suits.projected {f : Flag} {known : List String} {s : FlagState}
    (suits : s.Suits f known) (now : AwareMoment)
    : (s.projected now).Suits f known := by
  unfold FlagState.projected
  split
  · next change planned =>
    split
    · exact suits.apply planned
    · exact suits
  · exact suits

end FlagState

end FeatureFlags
