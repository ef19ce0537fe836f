import FeatureFlags.Proofs.Evaluation.TypeSoundness

/-! Sites of rollouts: each flag by itself and each rule of a flag. What is hashed for an entity is the
scope of the site and then the id of the entity, with nothing between them. Keys of flags have no
colon; so the first colon of a scope ends the key, whatever the id of the rule is, and a scope without
a colon is that of a flag.
-/

namespace FeatureFlags

namespace Rollout

/-- Where a percentage decides who takes part: at a flag by itself, or at a rule of a flag. -/
inductive Site where
  | flag (flagKey : String)
  | rule (flagKey ruleId : String)
deriving DecidableEq

namespace Site

/-- The key of the flag to which the site belongs. -/
@[simp] def flagKey : Site → String
  | flag flagKey => flagKey
  | rule flagKey _ => flagKey

/-- The scope of the buckets at the site. -/
@[simp] def scope : Site → String
  | flag flagKey => flagKey
  | rule flagKey ruleId => ruleScope flagKey ruleId

/-- The text whose hash decides about an entity at the site. -/
def hashed (site : Site) (entityId : String) : String := hashedText site.scope entityId

end Site

end Rollout

/-- The snapshot holds the flag to which the site belongs. The rule need not be there. -/
def Snapshot.HasSite (s : Snapshot) (site : Rollout.Site) : Prop :=
  ∃ flag, s.flags.get? site.flagKey = some flag

-----------------------------------------------------------------------------------------
-- Keys have no colon
-----------------------------------------------------------------------------------------

theorem Flag.colon_not_mem_of_isKey {key : String} (proper : isKey key = true)
    : ':' ∉ key.toList := by
  intro member
  have character := ((isKey_iff key).mp proper).2 ':' member
  unfold KeyCharacter at character
  revert character
  decide

/-- The keys of the flags of a coherent snapshot are proper. -/
theorem Snapshot.Coherent.isKey_of_get? {s : Snapshot} (coherent : s.Coherent) {flagKey : String}
    {flag : Flag} (found : s.flags.get? flagKey = some flag)
    : Flag.isKey flagKey = true := by
  have member := OrderedMap.get?_eq_some_iff.mp found
  have sound := coherent.flags _ member
  rw [show flagKey = flag.key from coherent.flagKeys _ member, Flag.isKey_iff]
  exact ⟨sound.keyed, sound.characters⟩

-----------------------------------------------------------------------------------------
-- Scopes
-----------------------------------------------------------------------------------------

namespace Rollout

theorem toList_ruleScope (flagKey ruleId : String)
    : (ruleScope flagKey ruleId).toList = flagKey.toList ++ ':' :: ruleId.toList := by
  simp only [ruleScope, String.toList_append, List.append_assoc]
  rfl

/-- What stands before the first colon of two equal texts is equal, and so is what follows it. -/
theorem append_colon_inj {before before' after after' : List Char} (proper : ':' ∉ before)
    (proper' : ':' ∉ before')
    : before ++ ':' :: after = before' ++ ':' :: after' ↔ before = before' ∧ after = after' := by
  constructor
  · intro same
    have place := congrArg (List.idxOf ':') same
    rw [List.idxOf_append_of_notMem proper, List.idxOf_append_of_notMem proper',
      List.idxOf_cons_self, List.idxOf_cons_self] at place
    obtain ⟨left, right⟩ := List.append_inj same place
    exact ⟨left, (List.cons.inj right).2⟩
  · rintro ⟨rfl, rfl⟩
    rfl

variable {flagKey flagKey' : String}

/-- Of proper keys and whatever ids, each pair has a scope of its own. -/
theorem ruleScope_inj (proper : Flag.isKey flagKey = true) (proper' : Flag.isKey flagKey' = true)
    {ruleId ruleId' : String}
    : ruleScope flagKey ruleId = ruleScope flagKey' ruleId'
      ↔ flagKey = flagKey' ∧ ruleId = ruleId' := by
  rw [← String.toList_inj, toList_ruleScope, toList_ruleScope,
    append_colon_inj (Flag.colon_not_mem_of_isKey proper) (Flag.colon_not_mem_of_isKey proper'),
    String.toList_inj, String.toList_inj]

/-- The scope of a rule is no proper key, because it has a colon. -/
theorem ruleScope_ne (flagKey ruleId : String) (proper' : Flag.isKey flagKey' = true)
    : ruleScope flagKey ruleId ≠ flagKey' := by
  rintro rfl
  apply Flag.colon_not_mem_of_isKey proper'
  simp [toList_ruleScope]

namespace Site

variable {a b : Site}

/-- Sites of flags with proper keys have different scopes, by cases on their kinds. -/
theorem scope_inj (proper : Flag.isKey a.flagKey = true) (proper' : Flag.isKey b.flagKey = true)
    : a.scope = b.scope ↔ a = b := by
  cases a with
  | flag key =>
      cases b with
      | flag key' => simp
      | rule key' ruleId => simpa using (ruleScope_ne key' ruleId proper).symm
  | rule key ruleId =>
      cases b with
      | flag key' => simpa using ruleScope_ne key ruleId proper'
      | rule key' ruleId' => simpa using ruleScope_inj proper proper'

/-- The id of the entity comes last, so equal texts for one entity have equal scopes. -/
theorem hashed_inj (entityId : String)
    : a.hashed entityId = b.hashed entityId ↔ a.scope = b.scope :=
  String.append_left_inj entityId

end Site

end Rollout

/-- Rollouts have different scopes. Rules of flags with proper keys have the same scope only if their
flags and their ids are the same, and no rule has the scope of a flag. So in an accepted snapshot the
texts that are hashed for an entity at two sites are equal exactly if the sites are the same, whatever
the ids of rules and the id of the entity are.
-/
theorem rolloutSitesNeverCollide
    : (∀ flagKey flagKey' : String,
        Flag.isKey flagKey = true
        → Flag.isKey flagKey' = true
        → ∀ ruleId ruleId' : String,
            (Rollout.ruleScope flagKey ruleId = Rollout.ruleScope flagKey' ruleId'
              ↔ flagKey = flagKey' ∧ ruleId = ruleId')
            ∧ Rollout.ruleScope flagKey ruleId ≠ flagKey')
      ∧ ∀ s : Snapshot,
          s.Accepted
          → ∀ a b : Rollout.Site,
              s.HasSite a
              → s.HasSite b
              → ∀ entityId : String, a.hashed entityId = b.hashed entityId ↔ a = b := by
  constructor
  · intro flagKey flagKey' proper proper' ruleId ruleId'
    exact ⟨Rollout.ruleScope_inj proper proper', Rollout.ruleScope_ne flagKey ruleId proper'⟩
  · intro s accepted a b ours others entityId
    obtain ⟨flag, found⟩ := ours
    obtain ⟨flag', found'⟩ := others
    have coherent := accepted.coherent
    rw [Rollout.Site.hashed_inj,
      Rollout.Site.scope_inj (coherent.isKey_of_get? found) (coherent.isKey_of_get? found')]

/-- A rule whose id has a colon and the flag itself are told apart for every entity. -/
theorem sample_sites_are_told_apart
    : ∃ s,
        (Snapshot.build (.int 1) [Sample.flag] [(("theme", "production"), Sample.state)] []).result
            = .ok s
          ∧ ∀ entityId,
              (Rollout.Site.rule "theme" "a:b").hashed entityId
              ≠ (Rollout.Site.flag "theme").hashed entityId := by
  obtain ⟨s, built⟩ := Sample.exists_built
  obtain ⟨-, -, parts⟩ := (Snapshot.build_eq_ok_iff ..).mp built
  have found : s.flags.get? "theme" = some Sample.flag := parts.flag_found List.mem_cons_self
  refine ⟨s, built, fun entityId same => ?_⟩
  have told := (rolloutSitesNeverCollide.2 s ⟨_, _, _, _, built⟩ (.rule "theme" "a:b")
    (.flag "theme") ⟨_, found⟩ ⟨_, found⟩ entityId).mp same
  contradiction

end FeatureFlags
