import FeatureFlags.Proofs.Engine.Readings
import FeatureFlags.Proofs.Evaluation.Commitment
import FeatureFlags.Proofs.Evaluation.Planned

/-! Flags with changes that are planned for one instant. In a sweep for a given moment, or of an engine
with a clock, all of them are decided about with their changes or all without. Where there is neither,
each decision has a reading of the present for itself, and these only go on: then the flags that are
decided about without their changes come before those with them.
-/

namespace FeatureFlags

/-- The present is read in universal time and never goes back. -/
structure Surroundings.Onward (s : Surroundings) : Prop where
  universal : ∀ i, (s.present i).Universal
  rising : ∀ i j, i ≤ j → (s.present i).instant ≤ (s.present j).instant

/-- Flags that are planned for one time flip together. Take a sweep of an engine, and listeners that do
whatever they like. It returns if the snapshot is an accepted one and the moments have offsets.

If a moment is given, or the engine has a clock, whatever the sweep returns was decided at this one
moment, and any two flags whose changes are planned for one time are decided about with their changes
or both without. If there is neither, each decision was made at a reading of the present during the
call, and the readings only go on. So two flags that are planned for one instant can differ only if it
comes between the first and the last of the readings; then it is the earlier decision that is made
without the change.
-/
theorem sweepFlipsFlagsTogether (s : Surroundings) (depth : Nat)
    (id : Engine.Id) (environment : String) (context : Context) (now : Option Moment) (h : Host)
    {snapshot : Snapshot} (held : (h.engine id).snapshot = some snapshot)
    : (snapshot.Accepted
        → (∀ reading, ((h.askedMoment id now).getD (s.present reading)).isAware = true)
        → ∃ decisions,
            (h.perform s (depth + 1) (.evaluateAll id environment context now)).1
              = .ok (.decisions decisions))
      ∧ ∀ decisions,
          (h.perform s (depth + 1) (.evaluateAll id environment context now)).1
              = .ok (.decisions decisions)
          → (∀ t,
              h.askedMoment id now = some t
              → (∀ e ∈ decisions,
                  (evaluate (some snapshot) e.1 environment context (.bool false) t).result
                    = .ok e.2)
                ∧ ∀ e ∈ decisions, ∀ e' ∈ decisions,
                    ∀ (p : Plan snapshot e.1 environment) (p' : Plan snapshot e'.1 environment),
                      p.ForOneTime p' t → p.Together p' context e.2 e'.2)
            ∧ (h.askedMoment id now = none
              → ∃ made,
                  made.map Prod.snd = decisions
                  ∧ Host.Timed s snapshot environment context none h.readings
                      (h.perform s (depth + 1)
                        (.evaluateAll id environment context now)).2.readings made
                  ∧ (s.Onward
                    → made.Pairwise fun e e' =>
                        ∀ (p : Plan snapshot e.2.1 environment)
                            (p' : Plan snapshot e'.2.1 environment),
                          p.moment.instant = p'.moment.instant
                          → p.Together p' context e.2.2 e'.2.2
                            ∨ p.Straddles p' context (s.present e.1) (s.present e'.1) e.2.2
                                e'.2.2)) := by
  constructor
  · intro accepted aware
    obtain ⟨decisions, answer, -⟩ := Host.exists_evaluateAll s (Host.perform s depth) held
      (fun key reading => accepted.coherent.evaluate_answers key environment context (.bool false)
        ⟨_, aware reading⟩)
    exact ⟨decisions, congrArg (Except.map Answer.decisions) answer⟩
  · intro decisions answer
    obtain ⟨made, rfl, timed⟩ :=
      Host.timed_evaluateAll held (Host.perform_evaluateAll_eq_ok answer)
    refine ⟨?_, ?_⟩
    · intro t given
      have evaluated (e : String × Decision) (member : e ∈ made.map Prod.snd)
          : (evaluate (some snapshot) e.1 environment context (.bool false) t).result = .ok e.2 := by
        obtain ⟨m, among, rfl⟩ := List.mem_map.mp member
        have decided := timed.evaluated m among
        rwa [given] at decided
      refine ⟨evaluated, ?_⟩
      intro e member e' member' p p' same
      exact same.together (evaluated e member) (evaluated e' member')
    · intro none
      rw [none] at timed
      refine ⟨made, rfl, timed, ?_⟩
      intro onward
      refine timed.ordered.imp_of_mem ?_
      intro e e' member member' order p p' same
      exact p.together_or_straddles p' same (onward.universal _) (onward.universal _)
        (timed.evaluated e member) (timed.evaluated e' member') (onward.rising _ _ order)

namespace Sample

def launchFlag (key : String) : Flag := ⟨key, .boolean, [], "", "", []⟩

/-- Off until some moment, and then on for everyone. -/
def launchState (moment : AwareMoment) : FlagState where
  enabled := false
  killSwitch := false
  killSwitchActivatedAt := none
  defaultValue := .bool false
  percentage := none
  rules := ∅
  scheduled := some ⟨moment, some true, some (.bool true), none, none⟩

/-- Two flags, each with a moment from which it is on. -/
def launch (banner checkout : AwareMoment) : Snapshot where
  version := 1
  flags := .ofList [("banner", launchFlag "banner"), ("checkout", launchFlag "checkout")]
  states := .ofList
    [(("banner", "production"), launchState banner),
      (("checkout", "production"), launchState checkout)]
  segments := ∅

variable {banner checkout : AwareMoment}

theorem accepted_launch : (launch banner checkout).Accepted :=
  ⟨.int 1, [launchFlag "banner", launchFlag "checkout"],
    [(("banner", "production"), launchState banner),
      (("checkout", "production"), launchState checkout)], [], rfl⟩

theorem flagKeysIn_launch
    : (launch banner checkout).flagKeysIn "production" = ["banner", "checkout"] := by
  change ["banner", "checkout"].mergeSort (fun a b => !decide (b < a)) = _
  exact List.mergeSort_of_pairwise (by decide +kernel)

/-- A process whose engine serves both flags and has no clock. -/
def launching (banner checkout : AwareMoment) : Host :=
  { Host.empty with
    engines := [{ Engine.empty with snapshot := some (launch banner checkout) }] }

/-- Nobody listens, and the year begins between the first reading of the present and the second. -/
def midnight : Surroundings where
  react _ _ _ := .done
  present i := if i = 0 then yearBefore.toMoment else newYear.toMoment
  depth := 0

theorem onward_midnight : midnight.Onward where
  universal i := by
    unfold midnight
    dsimp only
    split <;> exact ⟨rfl, rfl⟩
  rising i j before := by
    have order : yearBefore.instant ≤ newYear.instant := by decide
    unfold midnight
    dsimp only
    split
    · split
      · exact Int.le_refl _
      · exact order
    · exact Int.le_of_eq (by rw [if_neg (by omega)])

/-- The sweep decides about the two flags, one after the other. -/
theorem sweep_launching (now : Option Moment)
    : ((launching banner checkout).perform midnight 1
          (.evaluateAll 0 "production" .empty now)).1
      = (((launching banner checkout).clockMoment 0 now).2.decideAll midnight
          (Host.perform midnight 0) 0 (launch banner checkout) "production" .empty
          ((launching banner checkout).clockMoment 0 now).1 ["banner", "checkout"]).1.map
            Answer.decisions := by
  rw [← @flagKeysIn_launch banner checkout]
  rfl

/-- One o'clock in universal time, in the night in which the clock is set back. -/
def nightHour : Moment := ⟨(setBack 0 true).date, .ofSeconds 3600 0, some 0, none⟩

/-- The decision about a flag before its moment. -/
def off (flagKey : String) : Decision :=
  ⟨flagKey, .bool false, .flagDisabled, none, none, some 1⟩

/-- The decision about a flag from its moment on. -/
def on (flagKey : String) : Decision := ⟨flagKey, .bool true, .default, none, none, some 1⟩

theorem on_ne_off (flagKey : String)
    : (.ok (on flagKey) : Except Failure Decision) ≠ .ok (off flagKey) := by
  intro same
  have values : Datum.bool true = Datum.bool false :=
    congrArg Decision.value (Except.ok.inj same)
  exact Bool.false_ne_true (Datum.bool.inj values).symm

def bannerPlan (banner checkout : AwareMoment)
    : Plan (launch banner checkout) "banner" "production" :=
  ⟨launchFlag "banner", launchState banner, _, rfl, rfl, rfl⟩

def checkoutPlan (banner checkout : AwareMoment)
    : Plan (launch banner checkout) "checkout" "production" :=
  ⟨launchFlag "checkout", launchState checkout, _, rfl, rfl, rfl⟩

/-- One flag without its change and the other one with it are not together. -/
theorem not_together
    : ¬ (bannerPlan banner checkout).Together (checkoutPlan banner checkout) .empty
          (off "banner") (on "checkout") := by
  rintro (⟨applied, -⟩ | ⟨-, deferred⟩)
  · have on : ((bannerPlan banner checkout).applied .empty).result = .ok (on "banner") := rfl
    exact on_ne_off "banner" (on.symm.trans applied)
  · have off : ((checkoutPlan banner checkout).deferred .empty).result = .ok (off "checkout") := rfl
    exact on_ne_off "checkout" (deferred.symm.trans off)

end Sample

/-- At the start of the year both flags are decided about with their changes. Without a given moment
the second one is decided about no earlier than the first one.
-/
theorem sample_flags_flip_together
    : (((Sample.launching Sample.newYear Sample.newYear).perform Sample.midnight 1
            (.evaluateAll 0 "production" .empty (some Sample.newYear.toMoment))).1
          = .ok (.decisions [("banner", Sample.on "banner"), ("checkout", Sample.on "checkout")])
        ∧ (Sample.bannerPlan Sample.newYear Sample.newYear).Together
            (Sample.checkoutPlan Sample.newYear Sample.newYear) .empty (Sample.on "banner")
            (Sample.on "checkout"))
      ∧ ∃ decisions,
          ((Sample.launching Sample.newYear Sample.newYear).perform Sample.midnight 1
              (.evaluateAll 0 "production" .empty none)).1
            = .ok (.decisions decisions)
          ∧ ∃ made : List (Nat × String × Decision),
              made.map Prod.snd = decisions ∧ made.Pairwise fun e e' => e.1 ≤ e'.1 := by
  have held
      : ((Sample.launching Sample.newYear Sample.newYear).engine 0).snapshot
        = some (Sample.launch Sample.newYear Sample.newYear) := by
    rfl
  have sweep (now : Option Moment) := sweepFlipsFlagsTogether Sample.midnight 0
    0 "production" .empty now (Sample.launching Sample.newYear Sample.newYear) held
  have aware (reading : Nat) : (Sample.midnight.present reading).isAware = true := by
    unfold Sample.midnight
    dsimp only
    split <;> rfl
  constructor
  · have answer := @Sample.sweep_launching Sample.newYear Sample.newYear
      (some Sample.newYear.toMoment)
    have together := (((sweep (some Sample.newYear.toMoment)).2 _ answer).1 _ rfl).2
      _ List.mem_cons_self _ (List.mem_cons_of_mem _ List.mem_cons_self)
    exact ⟨answer, together (Sample.bannerPlan _ _) (Sample.checkoutPlan _ _) (Or.inl rfl)⟩
  · obtain ⟨decisions, answer⟩ := (sweep none).1 Sample.accepted_launch aware
    obtain ⟨made, same, timed, -⟩ := ((sweep none).2 decisions answer).2 rfl
    exact ⟨decisions, answer, made, same, timed.ordered⟩

/-- Flags whose changes are planned for one time can differ. Without a given moment and a clock, the
time can come between two decisions of a sweep, so that there is no one moment at which both are made.
And for a given moment, changes that are planned for the same reading of a clock that is set back, the
first time it is shown and the second time, can be due apart although they count as equal.
-/
theorem flags_planned_for_one_instant_can_differ
    : (Sample.midnight.Onward
        ∧ ((Sample.launching Sample.newYear Sample.newYear).perform Sample.midnight 1
              (.evaluateAll 0 "production" .empty none)).1
          = .ok (.decisions [("banner", Sample.off "banner"), ("checkout", Sample.on "checkout")])
        ∧ ¬ ∃ t,
            (evaluate (some (Sample.launch Sample.newYear Sample.newYear)) "banner" "production"
                .empty (.bool false) t).result = .ok (Sample.off "banner")
            ∧ (evaluate (some (Sample.launch Sample.newYear Sample.newYear)) "checkout" "production"
                .empty (.bool false) t).result = .ok (Sample.on "checkout"))
      ∧ (Sample.setBack 30 true).toMoment.same (Sample.setBack 30 false).toMoment = true
      ∧ ((Sample.launching (Sample.setBack 30 true) (Sample.setBack 30 false)).perform
            Sample.midnight 1 (.evaluateAll 0 "production" .empty (some Sample.nightHour))).1
        = .ok (.decisions [("banner", Sample.off "banner"), ("checkout", Sample.on "checkout")])
      ∧ ¬ (Sample.bannerPlan (Sample.setBack 30 true) (Sample.setBack 30 false)).Together
            (Sample.checkoutPlan (Sample.setBack 30 true) (Sample.setBack 30 false)) .empty
            (Sample.off "banner") (Sample.on "checkout") := by
  refine ⟨⟨Sample.onward_midnight, Sample.sweep_launching none, ?_⟩, by decide,
    Sample.sweep_launching (some Sample.nightHour), Sample.not_together⟩
  rintro ⟨t, banner, checkout⟩
  have same
      : (Sample.bannerPlan Sample.newYear Sample.newYear).ForOneTime
          (Sample.checkoutPlan Sample.newYear Sample.newYear) t :=
    Or.inl rfl
  exact Sample.not_together (same.together banner checkout)

end FeatureFlags
