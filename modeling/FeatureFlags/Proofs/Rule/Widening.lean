import FeatureFlags.Proofs.Rule.Verdict

/-! Raising the percentage of a rollout. Nobody's bucket changes, so whoever takes part goes on
doing so, and the choice among rules stays as it is or falls on the rule whose percentage was
raised.
-/

namespace FeatureFlags

/-- At every percentage, 0 and 100 included, those take part whose bucket lies below it. -/
theorem Rollout.includes_iff {scope entityId : String} {percentage : Int}
    : includes scope entityId percentage = true ↔ (bucket scope entityId : Int) < percentage := by
  have bounded : (bucket scope entityId : Int) < bucketCount := by
    exact_mod_cast bucket_lt scope entityId
  unfold includes
  split
  · next full =>
    simp only [true_iff]
    exact Int.lt_of_lt_of_le bounded full
  · split
    · next none =>
      simp only [Bool.false_eq_true, false_iff]
      omega
    · exact decide_eq_true_iff

theorem Percentage.includes_mono {p q : Percentage} (raised : p.value ≤ q.value)
    {scope entityId : String} (included : p.includes scope entityId = true)
    : q.includes scope entityId = true := by
  unfold includes at *
  rw [Rollout.includes_iff] at *
  omega

namespace Rule

/-- The second rule is the first one with its percentage raised. -/
inductive Raised (r : Rule) : Rule → Prop
  | to {p q : Percentage} (given : r.percentage = some p) (raised : p.value ≤ q.value)
      : Raised r { r with percentage := some q }

variable {flagKey : String} {context : Context} {segments : SegmentMap} {r r' : Rule}

/-- A raised rule says what it said before, or it decides about an entity that it was to decide
about or to pass over.
-/
theorem Raised.verdict (raised : r.Raised r')
    : r'.verdict flagKey context segments = r.verdict flagKey context segments
      ∨ r'.verdict flagKey context segments = .ok (some ⟨r', some true⟩)
        ∧ (r.verdict flagKey context segments = .ok none
          ∨ r.verdict flagKey context segments = .ok (some ⟨r, some true⟩)) := by
  obtain @⟨p, q, given, raised⟩ := raised
  have same
      : ({ r with percentage := some q } : Rule).concerns context segments
        = r.concerns context segments :=
    rfl
  unfold Rule.verdict
  rw [same]
  cases (r.concerns context segments).result with
  | error e => exact Or.inl rfl
  | ok concerned =>
      cases concerned with
      | false => exact Or.inl rfl
      | true =>
          simp only [Except.map, if_true, selection?, given]
          cases before : p.includes (Rollout.ruleScope flagKey r.id) context.entityId with
          | true => simp [Percentage.includes_mono raised before]
          | false =>
              cases q.includes (Rollout.ruleScope flagKey r.id) context.entityId with
              | true => simp
              | false => simp

/-- When the percentage of one rule is raised, the choice stays as it is, or it falls on this rule
where it fell on the same rule, on a later one or on none. The induction is over the rules before
it.
-/
theorem Raised.select (raised : r.Raised r') (before after : List Rule)
    : (Rule.select flagKey context segments (before ++ r' :: after)).result
        = (Rule.select flagKey context segments (before ++ r :: after)).result
      ∨ (Rule.select flagKey context segments (before ++ r' :: after)).result
          = .ok (some ⟨r', some true⟩)
        ∧ ∀ selection,
            (Rule.select flagKey context segments (before ++ r :: after)).result
              = .ok (some selection)
            → selection = ⟨r, some true⟩ ∨ selection.rule ∈ after := by
  induction before with
  | nil =>
      rw [List.nil_append, List.nil_append, select_cons_result, select_cons_result]
      rcases raised.verdict with same | ⟨decides, passed | decided⟩
      · unfold settles
        rw [same]
        exact Or.inl rfl
      · rw [settles_eq_false_iff.mpr passed]
        refine Or.inr ⟨by simp [settles, decides], ?_⟩
        intro selection selected
        exact Or.inr (mem_of_select selected)
      · refine Or.inr ⟨by simp [settles, decides], ?_⟩
        intro selection selected
        simp only [settles, decided, if_true, Except.ok.injEq, Option.some.injEq] at selected
        exact Or.inl selected.symm
  | cons a rest ih =>
      rw [List.cons_append, List.cons_append, select_cons_result, select_cons_result]
      cases a.settles flagKey context segments with
      | true => exact Or.inl rfl
      | false => exact ih

end Rule

end FeatureFlags
