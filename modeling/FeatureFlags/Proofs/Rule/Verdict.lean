import FeatureFlags.Proofs.Outcome
import FeatureFlags.Rule.Selection

/-! What a rule says by itself. A rule decides about a flag or is passed over, or its test fails;
the choice among rules is the verdict of the first one that is not passed over.
-/

namespace FeatureFlags.Rule

-----------------------------------------------------------------------------------------
-- Single rules
-----------------------------------------------------------------------------------------

/-- The decision by a rule whose test holds, unless its rollout leaves the entity out. -/
def selection? (flagKey : String) (context : Context) (r : Rule) : Option Selection :=
  match r.percentage with
  | none => some ⟨r, none⟩
  | some p =>
    if p.includes (Rollout.ruleScope flagKey r.id) context.entityId then some ⟨r, some true⟩
    else none

/-- What a rule says about a flag: it decides, or it is passed over. -/
def verdict (flagKey : String) (context : Context) (segments : SegmentMap) (r : Rule)
    : Except Failure (Option Selection) :=
  (r.concerns context segments).result.map fun concerned =>
    if concerned then r.selection? flagKey context else none

/-- Whether the search for a rule ends here, with a decision or with a failure. -/
def settles (flagKey : String) (context : Context) (segments : SegmentMap) (r : Rule) : Bool :=
  match r.verdict flagKey context segments with
  | .ok none => false
  | _ => true

/-- The entity meets the rule, and takes part in its rollout if there is one. -/
structure Qualifies (flagKey : String) (context : Context) (segments : SegmentMap) (r : Rule)
    : Prop where
  concerned : (r.concerns context segments).result = .ok true
  inRollout
    : ∀ p, r.percentage = some p
        → p.includes (Rollout.ruleScope flagKey r.id) context.entityId = true

/-- The test of the rule fails, instead of saying whether the entity meets it. -/
def Fails (context : Context) (segments : SegmentMap) (r : Rule) : Prop :=
  ∃ e, (r.concerns context segments).result = .error e

section

variable {flagKey : String} {context : Context} {segments : SegmentMap} {r : Rule}

theorem selection?_eq_some_iff {selection : Selection}
    : r.selection? flagKey context = some selection
      ↔ (∀ p, r.percentage = some p
          → p.includes (Rollout.ruleScope flagKey r.id) context.entityId = true)
        ∧ selection = ⟨r, r.percentage.map fun _ => true⟩ := by
  unfold selection?
  cases r.percentage with
  | none =>
      simp only [Option.some.injEq, reduceCtorEq, false_implies, implies_true, true_and,
        Option.map_none]
      exact eq_comm
  | some p =>
      cases included : p.includes (Rollout.ruleScope flagKey r.id) context.entityId with
      | false => simp [included]
      | true =>
          simp only [if_true, Option.some.injEq, forall_eq', included, true_and, Option.map_some]
          exact eq_comm

/-- A rule decides exactly when the entity qualifies, and says whether by its rollout. -/
theorem verdict_eq_some_iff {selection : Selection}
    : r.verdict flagKey context segments = .ok (some selection)
      ↔ r.Qualifies flagKey context segments
        ∧ selection = ⟨r, r.percentage.map fun _ => true⟩ := by
  have qualifies
      : r.Qualifies flagKey context segments
        ↔ (r.concerns context segments).result = .ok true
          ∧ ∀ p, r.percentage = some p
              → p.includes (Rollout.ruleScope flagKey r.id) context.entityId = true :=
    ⟨fun ⟨concerned, inRollout⟩ => ⟨concerned, inRollout⟩,
      fun ⟨concerned, inRollout⟩ => ⟨concerned, inRollout⟩⟩
  rw [qualifies, verdict]
  cases (r.concerns context segments).result with
  | error e => simp [Except.map]
  | ok concerned => cases concerned <;> simp [Except.map, selection?_eq_some_iff]

theorem verdict_eq_error_iff {e : Failure}
    : r.verdict flagKey context segments = .error e
      ↔ (r.concerns context segments).result = .error e := by
  unfold verdict
  cases (r.concerns context segments).result <;> simp [Except.map]

theorem settles_eq_false_iff
    : r.settles flagKey context segments = false
      ↔ r.verdict flagKey context segments = .ok none := by
  unfold settles
  split <;> simp_all

/-- The search ends at a rule that qualifies and at one whose test fails, and at no other. -/
theorem settles_iff
    : r.settles flagKey context segments = true
      ↔ r.Qualifies flagKey context segments ∨ r.Fails context segments := by
  unfold settles Fails
  cases reached : r.verdict flagKey context segments with
  | error e => simp [verdict_eq_error_iff.mp reached]
  | ok selected =>
      have answers (e : Failure) : (r.concerns context segments).result ≠ .error e := by
        rw [Ne, ← @verdict_eq_error_iff flagKey, reached]
        simp
      cases selected with
      | none =>
          have unqualified : ¬ r.Qualifies flagKey context segments := by
            intro qualifies
            have decides := verdict_eq_some_iff.mpr ⟨qualifies, rfl⟩
            rw [reached] at decides
            simp at decides
          simp [answers, unqualified]
      | some selection => simp [(verdict_eq_some_iff.mp reached).1]

end

-----------------------------------------------------------------------------------------
-- Lists of rules
-----------------------------------------------------------------------------------------

section

variable (flagKey : String) (context : Context) (segments : SegmentMap)

/-- One step of the choice: a rule that settles the matter gives its verdict, and any other rule
leaves it to those behind.
-/
theorem select_cons_result (r : Rule) (rest : List Rule)
    : (select flagKey context segments (r :: rest)).result
      = if r.settles flagKey context segments then
          r.verdict flagKey context segments
        else
          (select flagKey context segments rest).result := by
  rw [select, settles, verdict, selection?, Traced.result_bind]
  cases (r.concerns context segments).result with
  | error e => rfl
  | ok concerned =>
      cases concerned with
      | false => rfl
      | true =>
          cases r.percentage with
          | none => rfl
          | some p =>
              cases included : p.includes (Rollout.ruleScope flagKey r.id) context.entityId with
              | false => simp [Bind.bind, Except.bind, Except.map, included, Traced.bind]
              | true => simp [Bind.bind, Except.bind, Except.map, included]

/-- The choice among rules is the verdict of the first one that settles the matter, by induction
over the rules.
-/
theorem select_result (rules : List Rule)
    : (select flagKey context segments rules).result
      = ((rules.find? (settles flagKey context segments)).map
          (verdict flagKey context segments)).getD (.ok none) := by
  induction rules with
  | nil => rfl
  | cons r rest ih =>
      rw [select_cons_result, ih]
      cases settled : r.settles flagKey context segments with
      | true => simp [List.find?_cons_of_pos, settled]
      | false => simp [List.find?_cons_of_neg, settled]

/-- The rule is the first one of a list that qualifies. -/
structure FirstQualifying (rules : List Rule) (r : Rule) : Prop where
  qualifies : r.Qualifies flagKey context segments
  first
    : ∃ before after,
        rules = before ++ r :: after ∧ ∀ b ∈ before, ¬ b.Qualifies flagKey context segments

/-- Among rules whose tests all answer, the choice is the first one that qualifies, or none if no
rule does.
-/
theorem select_of_answers {rules : List Rule} (answers : ∀ r ∈ rules, ¬ r.Fails context segments)
    : (∃ r,
        FirstQualifying flagKey context segments rules r
        ∧ (select flagKey context segments rules).result
            = .ok (some ⟨r, r.percentage.map fun _ => true⟩))
      ∨ (∀ r ∈ rules, ¬ r.Qualifies flagKey context segments)
        ∧ (select flagKey context segments rules).result = .ok none := by
  have qualifies_iff (r : Rule) (member : r ∈ rules)
      : r.settles flagKey context segments = true ↔ r.Qualifies flagKey context segments := by
    rw [settles_iff]
    exact or_iff_left (answers r member)
  rw [select_result]
  cases found : rules.find? (settles flagKey context segments) with
  | none =>
      refine Or.inr ⟨fun r member qualifies => ?_, rfl⟩
      exact List.find?_eq_none.mp found r member ((qualifies_iff r member).mpr qualifies)
  | some r =>
      have member := List.mem_of_find?_eq_some found
      obtain ⟨settles, before, after, split, passed⟩ := List.find?_eq_some_iff_append.mp found
      have qualifies := (qualifies_iff r member).mp settles
      refine Or.inl ⟨r, ⟨qualifies, before, after, split, ?_⟩, ?_⟩
      · intro b among qualifies
        have given : b ∈ rules := split ▸ List.mem_append_left _ among
        simpa [(qualifies_iff b given).mpr qualifies] using passed b among
      · simp [verdict_eq_some_iff.mpr ⟨qualifies, rfl⟩]

variable {flagKey context segments} in
theorem mem_of_select {rules : List Rule} {selection : Selection}
    (selected : (select flagKey context segments rules).result = .ok (some selection))
    : selection.rule ∈ rules := by
  rw [select_result] at selected
  cases found : rules.find? (settles flagKey context segments) with
  | none => simp [found] at selected
  | some r =>
      rw [found] at selected
      obtain ⟨-, rfl⟩ := verdict_eq_some_iff.mp selected
      exact List.mem_of_find?_eq_some found

/-- Rules that are passed over may be left out. -/
theorem select_filter_settles (rules : List Rule)
    : (select flagKey context segments (rules.filter (settles flagKey context segments))).result
      = (select flagKey context segments rules).result := by
  rw [select_result, select_result, List.find?_filter]
  simp

end

end FeatureFlags.Rule
