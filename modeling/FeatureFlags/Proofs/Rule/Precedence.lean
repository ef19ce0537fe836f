import FeatureFlags.Proofs.Rule.Order

/-! The rule that decides among rules that are given in any order, and what ends the choice.
-/

namespace FeatureFlags

/-- First match wins, exactly in the given order. Take rules in whatever order they are given; they
are stored as reading stores the rules of a state and of a planned change.

The rule that decides is the least one, by priority and place, at which the search ends; it ends at
rules that qualify and at rules whose test fails, and a failing test is then the outcome. If no test
fails, the rule that decides is the least that qualifies, and none decides if none qualifies.
Another order that keeps the rules of each priority in theirs makes no difference, and neither does
a rule whose rollout leaves the entity out.
-/
theorem leastQualifyingRuleDecides (flagKey : String) (context : Context)
    (segments : SegmentMap) (given : List Rule)
    : (∀ x, Field.tuple Rule.read x = .ok given → RuleList.read x = .ok (.ofList given))
      ∧ (∀ selection,
          (Rule.select flagKey context segments (RuleList.ofList given).rules).result
              = .ok (some selection)
          ↔ (∃ i,
              RuleList.LeastAt
                (fun r => r.Qualifies flagKey context segments ∨ r.Fails context segments)
                given i selection.rule)
            ∧ selection.rule.Qualifies flagKey context segments
            ∧ selection.inRollout = selection.rule.percentage.map fun _ => true)
      ∧ ((Rule.select flagKey context segments (RuleList.ofList given).rules).result = .ok none
          ↔ ∀ r ∈ given, ¬ (r.Qualifies flagKey context segments ∨ r.Fails context segments))
      ∧ (∀ e,
          (Rule.select flagKey context segments (RuleList.ofList given).rules).result = .error e
          ↔ ∃ i r,
              RuleList.LeastAt
                (fun r => r.Qualifies flagKey context segments ∨ r.Fails context segments)
                given i r
              ∧ (r.concerns context segments).result = .error e)
      ∧ ((∀ r ∈ given, ¬ r.Fails context segments)
          → (∀ selection,
              (Rule.select flagKey context segments (RuleList.ofList given).rules).result
                  = .ok (some selection)
              ↔ (∃ i,
                  RuleList.LeastAt (Rule.Qualifies flagKey context segments) given i
                    selection.rule)
                ∧ selection.inRollout = selection.rule.percentage.map fun _ => true)
            ∧ ((Rule.select flagKey context segments (RuleList.ofList given).rules).result
                = .ok none
              ↔ ∀ r ∈ given, ¬ r.Qualifies flagKey context segments))
      ∧ (∀ others,
          (∀ priority,
            RuleList.ofPriority priority others = RuleList.ofPriority priority given)
          → RuleList.ofList others = RuleList.ofList given)
      ∧ ∀ before r after p,
          given = before ++ r :: after
          → (r.concerns context segments).result = .ok true
          → r.percentage = some p
          → p.includes (Rollout.ruleScope flagKey r.id) context.entityId = false
          → (Rule.select flagKey context segments (RuleList.ofList (before ++ after)).rules).result
              = (Rule.select flagKey context segments (RuleList.ofList given).rules).result := by
  have settled (r : Rule) (_ : r ∈ given)
      : r.settles flagKey context segments = true
        ↔ r.Qualifies flagKey context segments ∨ r.Fails context segments :=
    Rule.settles_iff
  have decides (selection : Rule.Selection)
      : (Rule.select flagKey context segments (RuleList.ofList given).rules).result
            = .ok (some selection)
        ↔ (∃ i,
            RuleList.LeastAt
              (fun r => r.Qualifies flagKey context segments ∨ r.Fails context segments)
              given i selection.rule)
          ∧ selection.rule.Qualifies flagKey context segments
          ∧ selection.inRollout = selection.rule.percentage.map fun _ => true := by
    rw [RuleList.select_ofList_eq_iff _ _ _ (by simp)]
    simp only [RuleList.LeastAt.congr settled, Rule.verdict_eq_some_iff]
    constructor
    · rintro ⟨i, r, least, qualifies, rfl⟩
      exact ⟨⟨i, least⟩, qualifies, rfl⟩
    · rintro ⟨⟨i, least⟩, qualifies, inRollout⟩
      refine ⟨i, selection.rule, least, qualifies, ?_⟩
      rw [← inRollout]
  have passes
      : (Rule.select flagKey context segments (RuleList.ofList given).rules).result = .ok none
        ↔ ∀ r ∈ given, ¬ (r.Qualifies flagKey context segments ∨ r.Fails context segments) := by
    rw [RuleList.select_ofList_eq_none_iff]
    simp only [← Bool.not_eq_true, Rule.settles_iff]
  refine ⟨?_, decides, passes, ?_, ?_, ?_, ?_⟩
  · intro x read
    rw [RuleList.read, read]
    rfl
  · intro e
    rw [RuleList.select_ofList_eq_iff _ _ _ (by simp)]
    simp only [RuleList.LeastAt.congr settled, Rule.verdict_eq_error_iff]
  · intro answering
    have same (r : Rule) (member : r ∈ given)
        : r.Qualifies flagKey context segments ∨ r.Fails context segments
          ↔ r.Qualifies flagKey context segments :=
      ⟨fun either => either.resolve_right (answering r member), Or.inl⟩
    refine ⟨?_, passes.trans ?_⟩
    · intro selection
      rw [decides]
      simp only [RuleList.LeastAt.congr same]
      constructor
      · rintro ⟨least, -, inRollout⟩
        exact ⟨least, inRollout⟩
      · rintro ⟨⟨i, least⟩, inRollout⟩
        exact ⟨⟨i, least⟩, least.holds, inRollout⟩
    · exact forall₂_congr fun r member => not_congr (same r member)
  · intro others same
    exact RuleList.ofList_eq_of_ofPriority same
  · rintro before r after p rfl concerned rollout excluded
    have unsettled : r.settles flagKey context segments = false := by
      rw [← Bool.not_eq_true, Rule.settles_iff]
      rintro (qualifies | ⟨e, failed⟩)
      · rw [qualifies.inRollout p rollout] at excluded
        contradiction
      · rw [concerned] at failed
        contradiction
    have left : (before ++ after).filter (Rule.settles flagKey context segments)
        = (before ++ r :: after).filter (Rule.settles flagKey context segments) := by
      simp [unsettled]
    rw [← Rule.select_filter_settles, ← RuleList.rules_ofList_filter, left,
      RuleList.rules_ofList_filter, Rule.select_filter_settles]

namespace Sample

/-- A rule about entities with a name in which a regular expression matches. -/
def nameMatches (pattern : String) : Rule where
  id := "by name"
  priority := 0
  conditions := [⟨"name", .matchesPattern, some (.text pattern)⟩]
  segments := []
  excludedSegments := []
  percentage := none
  value := .text "light"
  description := ""

/-- A rule about everyone. -/
def everyone : Rule where
  id := "everyone"
  priority := 1
  conditions := []
  segments := []
  excludedSegments := []
  percentage := none
  value := .text "dark"
  description := ""

/-- An entity with a name. -/
def named : Context := ⟨"user", .ofList [("name", .text "aaa")]⟩

theorem allHold_nameMatches_of_countless {pattern : String}
    (countless : Pattern.read pattern = .error .countless)
    : (Condition.allHold (nameMatches pattern).conditions named).result
      = .error (.pattern pattern .countless) := by
  have matching
      : (Condition.matchesIn pattern "aaa").result = .error (.pattern pattern .countless) := by
    rw [Condition.matchesIn, countless]
    rfl
  exact (Traced.all_singleton_result _ _).trans matching

theorem concerns_nameMatches_of_countless {pattern : String}
    (countless : Pattern.read pattern = .error .countless)
    : ((nameMatches pattern).concerns named ∅).result = .error (.pattern pattern .countless) := by
  rw [Rule.concerns, Traced.result_bind, allHold_nameMatches_of_countless countless]
  rfl

/-- The first of two rules decides if its test fails. -/
theorem select_of_countless {pattern : String}
    (countless : Pattern.read pattern = .error .countless)
    : (Rule.select "theme" named ∅ (RuleList.ofList [nameMatches pattern, everyone]).rules).result
      = .error (.pattern pattern .countless) := by
  have failed := concerns_nameMatches_of_countless countless
  have settles : (nameMatches pattern).settles "theme" named ∅ = true :=
    Rule.settles_iff.mpr (Or.inr ⟨_, failed⟩)
  have ordered : (RuleList.ofList [nameMatches pattern, everyone]).rules
      = [nameMatches pattern, everyone] :=
    List.mergeSort_of_pairwise (by simp [nameMatches, everyone])
  rw [ordered, Rule.select_cons_result, settles, if_pos rfl]
  exact Rule.verdict_eq_error_iff.mpr failed

/-- Whether a text is refused because something is to be repeated too often. -/
def isCountless (pattern : String) : Bool :=
  match Pattern.read pattern with
  | .error .countless => true
  | _ => false

theorem read_of_isCountless {pattern : String} (countless : isCountless pattern = true)
    : Pattern.read pattern = .error .countless := by
  unfold isCountless at countless
  split at countless
  · assumption
  · contradiction

theorem read_uncountable : Pattern.read "a{99999999999}" = .error .countless :=
  read_of_isCountless (by decide +kernel)

end Sample

/-- A test that fails keeps later rules from deciding, although one of them is about everyone: a
regular expression with too many repetitions is not taken for one that matches nowhere.
-/
theorem uncountable_repetition_ends_the_choice
    : (Rule.select "theme" Sample.named ∅
          (RuleList.ofList [Sample.nameMatches "a{99999999999}", Sample.everyone]).rules).result
        = .error (.pattern "a{99999999999}" .countless)
      ∧ Sample.everyone.Qualifies "theme" Sample.named ∅
      ∧ ¬ (Sample.nameMatches "a{99999999999}").Qualifies "theme" Sample.named ∅ := by
  refine ⟨Sample.select_of_countless Sample.read_uncountable, ⟨rfl, ?_⟩, ?_⟩
  · intro p rollout
    contradiction
  · intro qualifies
    have failed := Sample.concerns_nameMatches_of_countless Sample.read_uncountable
    rw [qualifies.concerned] at failed
    contradiction

end FeatureFlags
