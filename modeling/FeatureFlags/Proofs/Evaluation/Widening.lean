import FeatureFlags.Proofs.Evaluation.Order
import FeatureFlags.Proofs.Evaluation.TypeSoundness
import FeatureFlags.Proofs.Rule.Widening

/-! Raising a percentage evicts nobody. Two snapshots are compared that differ in one percentage of
one state: that of a rule or that of the flag, committed or planned. The state that holds at a
moment either does not have the percentage, or it differs in it too; then the choice among the rules
or the last step of the decision can change, and only in favour of the entity.
-/

namespace FeatureFlags

-----------------------------------------------------------------------------------------
-- States with a raised percentage
-----------------------------------------------------------------------------------------

/-- The rules differ in one of them, whose percentage is raised. -/
def RuleList.Raised (r r' : Rule) (l l' : RuleList) : Prop :=
  r.Raised r' ∧ ∃ before after, l.rules = before ++ r :: after ∧ l'.rules = before ++ r' :: after

namespace FlagState

/-- The percentage of a rule is raised, be the rule committed or planned. -/
inductive RuleRaised (r r' : Rule) (state : FlagState) : FlagState → Prop
  | committed {rules : RuleList} (raised : RuleList.Raised r r' state.rules rules)
      : RuleRaised r r' state { state with rules }
  | planned {change : ScheduledChange} {former rules : RuleList}
      (scheduled : state.scheduled = some change) (given : change.rules = some former)
      (raised : RuleList.Raised r r' former rules)
      : RuleRaised r r' state
          { state with scheduled := some { change with rules := some rules } }

/-- The percentage of the flag is raised, be it committed or planned. -/
inductive ShareRaised (state : FlagState) : FlagState → Prop
  | committed {p q : Percentage} (given : state.percentage = some p) (raised : p.value ≤ q.value)
      : ShareRaised state { state with percentage := some q }
  | planned {change : ScheduledChange} {p q : Percentage}
      (scheduled : state.scheduled = some change) (given : change.percentage = some p)
      (raised : p.value ≤ q.value)
      : ShareRaised state
          { state with scheduled := some { change with percentage := some q } }

/-- A planned change, if its moment has come. -/
def arrived (now : AwareMoment) (plan : Option ScheduledChange) : Option ScheduledChange :=
  plan.filter fun change => change.effectiveAt.notAfter now.toMoment

/-- What counts of a state once a change has been made, or while none is due. -/
def following (state : FlagState) : Option ScheduledChange → FlagState
  | some change => state.apply change
  | none => { state with scheduled := none }

/-- What counts of a state at a moment: the state that holds, whatever it plans. -/
def settled (state : FlagState) (now : AwareMoment) : FlagState :=
  state.following (arrived now state.scheduled)

variable {r r' : Rule} {state state' : FlagState}

theorem arrived_some (now : AwareMoment) (change : ScheduledChange)
    : arrived now (some change)
      = if change.effectiveAt.notAfter now.toMoment then some change else none := by
  simp [arrived, Option.filter]

theorem settled_eq (state : FlagState) (now : AwareMoment)
    : state.settled now = { state.projected now with scheduled := none } := by
  unfold settled projected
  cases state.scheduled with
  | none => rfl
  | some change =>
      rw [arrived_some]
      by_cases due : change.effectiveAt.notAfter now.toMoment
      · simp only [due, if_true]
        rfl
      · simp only [due]
        rfl

theorem RuleRaised.killSwitch (raised : RuleRaised r r' state state')
    : state'.killSwitch = state.killSwitch := by
  cases raised <;> rfl

theorem ShareRaised.killSwitch (raised : ShareRaised state state')
    : state'.killSwitch = state.killSwitch := by
  cases raised <;> rfl

/-- At any moment the rule is not among those that count, or it is raised there. -/
theorem RuleRaised.settled (raised : RuleRaised r r' state state') (now : AwareMoment)
    : state'.settled now = state.settled now
      ∨ ∃ rules, RuleList.Raised r r' (state.settled now).rules rules
          ∧ state'.settled now = { state.settled now with rules } := by
  cases raised with
  | @committed rules raised =>
      unfold FlagState.settled
      dsimp only
      cases arrived now state.scheduled with
      | none => exact Or.inr ⟨rules, raised, rfl⟩
      | some change =>
          -- Planned rules replace the committed ones.
          cases given : change.rules with
          | some others => exact Or.inl (by simp [following, apply, given])
          | none =>
              refine Or.inr ⟨rules, ?_, ?_⟩
              · simpa [following, apply, given] using raised
              · simp [following, apply, given]
  | @planned change former rules planned given raised =>
      unfold FlagState.settled
      simp only [planned, arrived_some]
      by_cases due : change.effectiveAt.notAfter now.toMoment
      · simp only [due, if_true]
        refine Or.inr ⟨rules, ?_, rfl⟩
        simpa [following, apply, given] using raised
      · simp only [due]
        exact Or.inl rfl

/-- At any moment the percentage is not the one that counts, or it is raised there. -/
theorem ShareRaised.settled (raised : ShareRaised state state') (now : AwareMoment)
    : state'.settled now = state.settled now
      ∨ ∃ p q : Percentage,
          (state.settled now).percentage = some p
          ∧ p.value ≤ q.value
          ∧ state'.settled now = { state.settled now with percentage := some q } := by
  cases raised with
  | @committed p q given raised =>
      unfold FlagState.settled
      dsimp only
      cases arrived now state.scheduled with
      | none => exact Or.inr ⟨p, q, given, raised, rfl⟩
      | some change =>
          -- A planned percentage replaces the committed one.
          cases other : change.percentage with
          | some t => exact Or.inl (by simp [following, apply, other])
          | none =>
              refine Or.inr ⟨p, q, ?_, raised, ?_⟩
              · simpa [following, apply, other] using given
              · simp [following, apply, other]
  | @planned change p q planned given raised =>
      unfold FlagState.settled
      simp only [planned, arrived_some]
      by_cases due : change.effectiveAt.notAfter now.toMoment
      · simp only [due, if_true]
        refine Or.inr ⟨p, q, ?_, raised, rfl⟩
        simp [following, apply, given]
      · simp only [due]
        exact Or.inl rfl

theorem Suits.settled {f : Flag} {known : List String} (suits : state.Suits f known)
    (now : AwareMoment)
    : f.Admits known (state.settled now).rules.rules := by
  rw [settled_eq]
  exact (suits.projected now).rules

end FlagState

-----------------------------------------------------------------------------------------
-- Decisions
-----------------------------------------------------------------------------------------

namespace Evaluation

variable {s : Snapshot} {flag : Flag} {state : FlagState} {r r' : Rule}

/-- A decision depends on the state through what of it counts at the moment. -/
theorem resolve_settled (s : Snapshot) (flag : Flag) (state : FlagState) (context : Context)
    (now : AwareMoment)
    : resolve s flag state context now.toMoment
      = if state.killSwitch then pure (serve s flag flag.offValue .killSwitch none)
        else byState s flag (state.settled now) context := by
  rw [resolve_eq, FlagState.settled_eq]
  rfl

/-- The decision by a rule that the entity takes part in. -/
def byRaised (s : Snapshot) (flag : Flag) (r : Rule) : Decision :=
  ⟨flag.key, r.value.datum, .ruleMatch, some r.id, some true, some s.version⟩

theorem ruleId_byDefault (s : Snapshot) (flag : Flag) (state : FlagState) (context : Context)
    : (byDefault s flag state context).ruleId = none := by
  unfold byDefault
  split
  · rfl
  · split <;> rfl

/-- With a rule raised, the decision stays as it is or is now by the rule; and if a rule of the same
id decided before, it was this one.
-/
theorem byState_of_rules_raised {rules : RuleList}
    (raised : RuleList.Raised r r' state.rules rules)
    (distinct : (state.rules.rules.map Rule.id).Nodup) {context : Context} {d d' : Decision}
    (former : (byState s flag state context).result = .ok d)
    (present : (byState s flag { state with rules } context).result = .ok d')
    : d' = d ∨ d' = byRaised s flag r ∧ (d.ruleId = some r.id → d = byRaised s flag r) := by
  obtain ⟨raised, before, after, old, new⟩ := raised
  rw [byState_result] at former present
  cases enabled : state.enabled with
  | false =>
      simp only [enabled, Bool.false_eq_true, if_false] at former present
      exact Or.inl (Except.ok.inj (present.symm.trans former))
  | true =>
      simp only [enabled, if_true, old, new] at former present
      rcases raised.select before after with same | ⟨chosen, others⟩
      · rw [same] at present
        exact Or.inl (Except.ok.inj (present.symm.trans former))
      · rw [chosen] at present
        have byRule : d' = byRaised s flag r := by
          cases raised
          exact (Except.ok.inj present).symm
        refine Or.inr ⟨byRule, ?_⟩
        intro served
        cases selected
            : (Rule.select flag.key context s.segments (before ++ r :: after)).result with
        | error e =>
            rw [selected] at former
            contradiction
        | ok selection =>
            rw [selected] at former
            obtain rfl := Except.ok.inj former
            cases selection with
            | none =>
                rw [bySelection, ruleId_byDefault] at served
                contradiction
            | some selection =>
                rcases others selection selected with rfl | behind
                · rfl
                · -- A later rule has another id.
                  have same : selection.rule.id = r.id := Option.some.inj served
                  rw [old, List.map_append, List.map_cons] at distinct
                  have fresh := (List.nodup_cons.mp (List.nodup_append.mp distinct).2.1).1
                  exact absurd (List.mem_map.mpr ⟨selection.rule, behind, same⟩) fresh

/-- With the percentage of the flag raised, the decision stays as it is, or the entity was left out
and now takes part.
-/
theorem byState_of_share_raised {p q : Percentage} (given : state.percentage = some p)
    (raised : p.value ≤ q.value) {context : Context} {d d' : Decision}
    (former : (byState s flag state context).result = .ok d)
    (present : (byState s flag { state with percentage := some q } context).result = .ok d')
    : d' = d
      ∨ d = serve s flag flag.offValue .default (some false)
        ∧ d' = serve s flag state.defaultValue .rolloutBucket (some true) := by
  rw [byState_result] at former present
  cases enabled : state.enabled with
  | false =>
      simp only [enabled, Bool.false_eq_true, if_false] at former present
      exact Or.inl (Except.ok.inj (present.symm.trans former))
  | true =>
      simp only [enabled, if_true] at former present
      cases selected : (Rule.select flag.key context s.segments state.rules.rules).result with
      | error e =>
          rw [selected] at former
          contradiction
      | ok selection =>
          rw [selected] at former present
          obtain rfl := Except.ok.inj former
          obtain rfl := Except.ok.inj present
          cases selection with
          | some selection => exact Or.inl rfl
          | none =>
              simp only [bySelection, byDefault, given]
              cases included : p.includes flag.key context.entityId with
              | true => simp [Percentage.includes_mono raised included]
              | false => cases q.includes flag.key context.entityId <;> simp

end Evaluation

-----------------------------------------------------------------------------------------
-- Snapshots
-----------------------------------------------------------------------------------------

/-- The second snapshot is the first one with another state under one key. -/
structure Snapshot.ChangesState (s s' : Snapshot) (key : String × String)
    (state state' : FlagState) : Prop where
  version : s'.version = s.version
  flags : s'.flags = s.flags
  segments : s'.segments = s.segments
  former : s.states.get? key = some state
  present : s'.states.get? key = some state'
  others : ∀ other, other ≠ key → s'.states.get? other = s.states.get? other

namespace Evaluation

variable {s s' : Snapshot}

variable {key : String × String} {state state' : FlagState} {flagKey environment : String}

/-- The flag and the two decisions about it that a changed state can lead to: without its kill
switch these are the decisions by what counts of both states at the moment.
-/
theorem exists_decisions (coherent : s.Coherent) (coherent' : s'.Coherent)
    (changes : s.ChangesState s' (flagKey, environment) state state')
    (switches : state'.killSwitch = state.killSwitch) (context : Context) (fallback : Datum)
    (now : AwareMoment) {d d' : Decision}
    (decided : (evaluate (some s) flagKey environment context fallback now.toMoment).result = .ok d)
    (decided'
      : (evaluate (some s') flagKey environment context fallback now.toMoment).result = .ok d')
    : ∃ flag,
        s.flags.get? flagKey = some flag
        ∧ flag.key = flagKey
        ∧ state.Suits flag (s.segments.entries.map Prod.fst)
        ∧ (d' = d
          ∨ (byState s flag (state.settled now) context).result = .ok d
            ∧ (byState s flag (state'.settled now) context).result = .ok d') := by
  obtain ⟨flag, flagFound, suits⟩ :=
    coherent.states _ (OrderedMap.get?_eq_some_iff.mp changes.former)
  have flagFound' : s'.flags.get? flagKey = some flag := by rw [changes.flags, flagFound]
  have keyed : flagKey = flag.key :=
    coherent.flagKeys _ (OrderedMap.get?_eq_some_iff.mp flagFound)
  refine ⟨flag, flagFound, keyed.symm, suits, ?_⟩
  rw [coherent.evaluate_eq_resolve flagFound changes.former, resolve_settled] at decided
  rw [coherent'.evaluate_eq_resolve flagFound' changes.present,
    resolve_congr changes.version (fun key _ => by rw [changes.segments])
      (Context.AgreeOn.refl context _), resolve_settled, switches] at decided'
  cases thrown : state.killSwitch with
  | true =>
      simp only [thrown, if_true] at decided decided'
      exact Or.inl (Except.ok.inj (decided'.symm.trans decided))
  | false =>
      simp only [thrown, Bool.false_eq_true, if_false] at decided decided'
      exact Or.inr ⟨decided, decided'⟩

/-- Under all other keys the decisions are the same. -/
theorem evaluate_of_other_key (changes : s.ChangesState s' key state state')
    (other : (flagKey, environment) ≠ key) (context : Context) (fallback : Datum) (now : Moment)
    : evaluate (some s') flagKey environment context fallback now
      = evaluate (some s) flagKey environment context fallback now :=
  evaluate_congr changes.version
    ⟨by rw [changes.flags], changes.others _ other, fun _ _ key _ => by rw [changes.segments]⟩
    (Context.AgreeOn.refl context _) (fun _ => rfl) now

end Evaluation

/-- Raising a percentage evicts nobody. Let two accepted snapshots differ in one state, and in it
only in one percentage, which is the greater one in the second snapshot. Both of them decide about
every flag at every moment with an offset.

If it is the percentage of a rule, committed or planned, a decision stays as it is or is now by this
rule, in its rollout, and whoever a rule of this id served has the same decision as before. If it is
the percentage of a flag, committed or planned, a decision stays as it is or it passes from the
value of the flag while it is off, outside of the rollout, to the default value of the state that
holds, within the rollout.
-/
theorem raisedPercentageEvictsNobody {s s' : Snapshot} (accepted : s.Accepted)
    (accepted' : s'.Accepted) {key : String × String} {state state' : FlagState}
    (changes : s.ChangesState s' key state state') (flagKey environment : String)
    (context : Context) (fallback : Datum) (now : AwareMoment)
    : ∃ d d',
        (evaluate (some s) flagKey environment context fallback now.toMoment).result = .ok d
        ∧ (evaluate (some s') flagKey environment context fallback now.toMoment).result = .ok d'
        ∧ (∀ r r',
            state.RuleRaised r r' state'
            → (d' = d
                ∨ (flagKey, environment) = key
                  ∧ d' = ⟨flagKey, r.value.datum, .ruleMatch, some r.id, some true,
                      some s.version⟩)
              ∧ (d.reason = .ruleMatch → d.ruleId = some r.id → d' = d))
        ∧ (state.ShareRaised state'
            → d' = d
              ∨ ∃ flag holding,
                  (flagKey, environment) = key
                  ∧ s.flags.get? flagKey = some flag
                  ∧ state.effective now.toMoment = .ok holding
                  ∧ d = ⟨flagKey, flag.offValue.datum, .default, none, some false, some s.version⟩
                  ∧ d' = ⟨flagKey, holding.defaultValue.datum, .rolloutBucket, none, some true,
                      some s.version⟩) := by
  have coherent := accepted.coherent
  have coherent' := accepted'.coherent
  obtain ⟨d, decided⟩ := coherent.evaluate_answers flagKey environment context fallback now
  obtain ⟨d', decided'⟩ := coherent'.evaluate_answers flagKey environment context fallback now
  refine ⟨d, d', decided, decided', ?_⟩
  by_cases here : (flagKey, environment) = key
  · subst here
    constructor
    · intro r r' raised
      obtain ⟨flag, -, keyed, suits, same | ⟨former, present⟩⟩ :=
        Evaluation.exists_decisions coherent coherent' changes raised.killSwitch context fallback
          now decided decided'
      · exact ⟨Or.inl same, fun _ _ => same⟩
      · rcases raised.settled now with alike | ⟨rules, raised, alike⟩
        · rw [alike, former] at present
          have same : d' = d := (Except.ok.inj present).symm
          exact ⟨Or.inl same, fun _ _ => same⟩
        · rw [alike] at present
          have distinct := (suits.settled now).distinct
          rcases Evaluation.byState_of_rules_raised raised distinct former present with
            same | ⟨byRule, served⟩
          · exact ⟨Or.inl same, fun _ _ => same⟩
          · refine ⟨Or.inr ⟨rfl, ?_⟩, fun _ decides => byRule.trans (served decides).symm⟩
            rw [byRule, Evaluation.byRaised, keyed]
    · intro raised
      obtain ⟨flag, flagFound, keyed, -, same | ⟨former, present⟩⟩ :=
        Evaluation.exists_decisions coherent coherent' changes raised.killSwitch context fallback
          now decided decided'
      · exact Or.inl same
      · rcases raised.settled now with alike | ⟨p, q, given, raised, alike⟩
        · rw [alike, former] at present
          exact Or.inl (Except.ok.inj present).symm
        · rw [alike] at present
          rcases Evaluation.byState_of_share_raised given raised former present with
            same | ⟨outside, inside⟩
          · exact Or.inl same
          · have holding := state.effective_eq now
            refine Or.inr ⟨flag, state.projected now, rfl, flagFound, holding, ?_, ?_⟩
            · rw [outside, Evaluation.serve, keyed]
            · rw [inside, Evaluation.serve, keyed, FlagState.settled_eq]
  · rw [Evaluation.evaluate_of_other_key changes here, decided] at decided'
    have same : d' = d := (Except.ok.inj decided').symm
    exact ⟨fun r r' _ => ⟨Or.inl same, fun _ _ => same⟩, fun _ => Or.inl same⟩

namespace Sample

/-- The rule for three quarters instead of half of those on one plan. -/
def widerRule : Rule := { rule with percentage := some ⟨75, Nat.le_add_right 75 25⟩ }

def widerState : FlagState := { state with rules := ⟨[widerRule], List.pairwise_singleton _ _⟩ }

theorem rule_raised : state.RuleRaised rule widerRule widerState := by
  apply FlagState.RuleRaised.committed
  refine ⟨Rule.Raised.to rfl ?_, [], [], rfl, rfl⟩
  decide

theorem exists_wider_built
    : ∃ s,
        (Snapshot.build (.int 1) [flag] [(("theme", "production"), widerState)] []).result
          = .ok s :=
  Outcome.exists_of_isOk (by decide +kernel)

/-- Snapshots of the flag with one state each differ in this state. -/
theorem changesState {state state' : FlagState} {s s' : Snapshot}
    (built
      : (Snapshot.build (.int 1) [flag] [(("theme", "production"), state)] []).result = .ok s)
    (built'
      : (Snapshot.build (.int 1) [flag] [(("theme", "production"), state')] []).result = .ok s')
    : s.ChangesState s' ("theme", "production") state state' := by
  obtain ⟨⟨version, -⟩, -, parts⟩ := (Snapshot.build_eq_ok_iff ..).mp built
  obtain ⟨⟨version', -⟩, -, parts'⟩ := (Snapshot.build_eq_ok_iff ..).mp built'
  have absent {t : Snapshot} {stored : FlagState}
      (entries : t.states.entries = [(("theme", "production"), stored)])
      (other : String × String) (different : other ≠ ("theme", "production"))
      : t.states.get? other = none := by
    rw [Option.eq_none_iff_forall_ne_some]
    intro a found
    rw [OrderedMap.get?_eq_some_iff, entries, List.mem_singleton] at found
    exact different (Prod.mk.inj found).1
  refine ⟨?_, ?_, ?_, ?_, ?_, ?_⟩
  · exact Checked.ok.inj (version'.symm.trans version)
  · exact OrderedMap.ext_entries (by rw [parts.flags, parts'.flags])
  · exact OrderedMap.ext_entries (by rw [parts.segments, parts'.segments])
  · rw [OrderedMap.get?_eq_some_iff, parts.states]
    exact List.mem_cons_self
  · rw [OrderedMap.get?_eq_some_iff, parts'.states]
    exact List.mem_cons_self
  · intro other different
    rw [absent parts.states other different, absent parts'.states other different]

end Sample

/-- Someone on the plan is served by the wider rule or as before. -/
theorem sample_rule_is_raised
    : ∃ s s' d d',
        (Snapshot.build (.int 1) [Sample.flag] [(("theme", "production"), Sample.state)] []).result
            = .ok s
          ∧ (Snapshot.build (.int 1) [Sample.flag] [(("theme", "production"), Sample.widerState)]
              []).result = .ok s'
          ∧ (evaluate (some s) "theme" "production" Sample.payer .null
                Sample.yearBefore.toMoment).result
              = .ok d
          ∧ (evaluate (some s') "theme" "production" Sample.payer .null
                Sample.yearBefore.toMoment).result
              = .ok d'
          ∧ (d' = d
            ∨ d' = ⟨"theme", .text "dark", .ruleMatch, some "paying", some true,
                some s.version⟩) := by
  obtain ⟨s, built⟩ := Sample.exists_built
  obtain ⟨s', built'⟩ := Sample.exists_wider_built
  obtain ⟨d, d', decided, decided', byRule, -⟩ :=
    raisedPercentageEvictsNobody ⟨_, _, _, _, built⟩ ⟨_, _, _, _, built'⟩
      (Sample.changesState built built') "theme" "production" Sample.payer .null
      Sample.yearBefore
  refine ⟨s, s', d, d', built, built', decided, decided', ?_⟩
  exact (byRule _ _ Sample.rule_raised).1.imp_right And.right

end FeatureFlags
