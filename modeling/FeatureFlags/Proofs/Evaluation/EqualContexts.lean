import FeatureFlags.Proofs.Evaluation.Explanation

/-! Equal contexts. When contexts are compared, truth values equal the numbers one and zero, but no
condition takes a truth value for a number. So equal contexts are indistinguishable exactly if no
attribute is a truth value in one of them and a number in the other.
-/

namespace FeatureFlags

-----------------------------------------------------------------------------------------
-- Equality of contexts
-----------------------------------------------------------------------------------------

/-- One of the attributes is a truth value and the other one is a number. -/
inductive Attribute.Mixed : Attribute → Attribute → Prop
  | boolNumber (b : Bool) (x : Number) : Mixed (.bool b) (.number x)
  | numberBool (x : Number) (b : Bool) : Mixed (.number x) (.bool b)

/-- Alike attributes are the same in kind and value, or they are a truth value and a number. -/
theorem Attribute.same_or_mixed {a b : Attribute} (alike : a.alike b = true)
    : a.same b = true ∨ a.Mixed b := by
  cases a with
  | bool p =>
      cases b with
      | number x => exact .inr (.boolNumber p x)
      | _ => exact .inl alike
  | number x =>
      cases b with
      | bool p => exact .inr (.numberBool x p)
      | _ => exact .inl alike
  | _ => exact .inl alike

namespace Context

variable {c other : Context}

/-- Some attribute is a truth value in one of the contexts and a number in the other one. -/
def Mixes (c other : Context) : Prop :=
  ∃ name a b, c.get? name = some a ∧ other.get? name = some b ∧ a.Mixed b

/-- Equal contexts have the same attributes, and these are alike. All attributes of the first one
are found in the second one; as there are equally many, no more are found there.
-/
theorem alike_of_same (same : c.same other = true) (name : String)
    : Option.Rel (fun a b => a.alike b = true) (c.get? name) (other.get? name) := by
  simp only [Context.same, Bool.and_eq_true, beq_iff_eq, List.all_eq_true] at same
  obtain ⟨⟨-, sizes⟩, matched⟩ := same
  have matching (key : String) (a : Attribute) (found : c.get? key = some a)
      : ∃ b, other.get? key = some b ∧ a.alike b = true := by
    have alike := matched (key, a) (OrderedMap.get?_eq_some_iff.mp found)
    cases reached : other.get? key with
    | none => simp [reached] at alike
    | some b => exact ⟨b, rfl, by simpa [reached] using alike⟩
  cases found : c.get? name with
  | some a =>
      obtain ⟨b, reached, alike⟩ := matching name a found
      rw [reached]
      exact .some alike
  | none =>
      have subset : c.attributes.keys ⊆ other.attributes.keys := by
        intro key member
        obtain ⟨⟨_, a⟩, entry, rfl⟩ := List.mem_map.mp member
        obtain ⟨b, reached, -⟩ := matching _ a (OrderedMap.get?_eq_some_iff.mpr entry)
        exact List.mem_map.mpr ⟨_, OrderedMap.get?_eq_some_iff.mp reached, rfl⟩
      cases reached : other.get? name with
      | none => exact .none
      | some b =>
          have member : name ∈ other.attributes.keys :=
            List.mem_map.mpr ⟨_, OrderedMap.get?_eq_some_iff.mp reached, rfl⟩
          obtain ⟨⟨_, a⟩, entry, rfl⟩ :=
            List.mem_map.mp (OrderedMap.mem_keys_of_subset sizes subset member)
          rw [get?, OrderedMap.get?_eq_some_iff.mpr entry] at found
          contradiction

/-- Equal contexts in which no kinds are mixed agree on all attributes. -/
theorem agreeOn_of_same (same : c.same other = true) (unmixed : ¬ c.Mixes other)
    (names : String → Prop)
    : c.AgreeOn names other := by
  constructor
  · simp only [Context.same, Bool.and_eq_true, beq_iff_eq] at same
    exact same.1.1
  · intro name _
    have alike := alike_of_same same name
    unfold AgreeAt
    generalize found : c.get? name = mine at alike ⊢
    generalize reached : other.get? name = theirs at alike ⊢
    cases alike with
    | none => exact .none
    | @some a b alike =>
        refine .some ((a.same_or_mixed alike).resolve_right ?_)
        exact fun mixed => unmixed ⟨name, a, b, found, reached, mixed⟩

end Context

-----------------------------------------------------------------------------------------
-- Probes of an attribute
-----------------------------------------------------------------------------------------

/-! Whatever name an attribute has, there are a condition, a segment and a snapshot that tell whether
the attribute is a certain truth value.
-/

namespace Probe

variable (name : String) (b : Bool)

def condition : Condition := ⟨name, .equals, some (.bool b)⟩

/-- Everyone for whom the condition holds. -/
def segment : Segment := ⟨"probe", "", "", ∅, ∅, [[condition name b]]⟩

def rule : Rule := ⟨"probe", 0, [condition name b], [], [], none, .bool true, ""⟩

/-- On for everyone for whom the condition holds. -/
def state : FlagState :=
  ⟨true, false, none, .bool false, none, ⟨[rule name b], List.pairwise_singleton _ _⟩, none⟩

def flag : Flag := ⟨"probe", .boolean, [], "", "", []⟩

variable {name b} {c other : Context} {truth : Bool}

/-- If attributes are mixed in two contexts, there is a condition that holds in one of them only. -/
theorem exists_of_mixes (mixed : c.Mixes other)
    : ∃ name b truth,
        ((condition name b).holds c).result = .ok truth
        ∧ ((condition name b).holds other).result = .ok !truth := by
  obtain ⟨name, a, b, found, reached, mixed⟩ := mixed
  cases mixed with
  | boolNumber b x =>
      refine ⟨name, b, true, ?_, ?_⟩
      · simp [condition, Condition.holds, found, Operator.negated?, Condition.holdsBetween,
          Attribute.same]
      · simp [condition, Condition.holds, reached, Operator.negated?, Condition.holdsBetween,
          Attribute.same]
  | numberBool x b =>
      refine ⟨name, b, false, ?_, ?_⟩
      · simp [condition, Condition.holds, found, Operator.negated?, Condition.holdsBetween,
          Attribute.same]
      · simp [condition, Condition.holds, reached, Operator.negated?, Condition.holdsBetween,
          Attribute.same]

theorem allHold_singleton {condition : Condition} (holds : (condition.holds c).result = .ok truth)
    : (Condition.allHold [condition] c).result = .ok truth :=
  (Traced.all_singleton_result _ _).trans holds

theorem segment_admits (holds : ((condition name b).holds c).result = .ok truth)
    : ((segment name b).admits c).result = .ok truth := by
  have rule := allHold_singleton holds
  change (Traced.any (fun conditions => Condition.allHold conditions c) [[condition name b]]).result
    = _
  simp only [Traced.any, Traced.result_bind, rule]
  cases truth <;> rfl

theorem rule_qualifies_iff {flagKey : String} {segments : SegmentMap}
    (holds : ((condition name b).holds c).result = .ok truth)
    : (rule name b).Qualifies flagKey c segments ↔ truth = true := by
  have concerns : ((rule name b).concerns c segments).result = .ok truth := by
    change (Condition.allHold [condition name b] c >>= fun holds =>
      if holds then pure true else pure false : Traced Bool).result = _
    rw [Traced.result_both_true, allHold_singleton holds]
  constructor
  · intro qualifies
    exact Except.ok.inj (concerns.symm.trans qualifies.concerned)
  · rintro rfl
    exact ⟨concerns, fun p given => by contradiction⟩

theorem exists_built (name : String) (b : Bool)
    : ∃ s, (Snapshot.build (.int 0) [flag] [(("probe", "anywhere"), state name b)] []).result
        = .ok s :=
  Outcome.exists_of_isOk rfl

/-- The decision is by the rule exactly where the condition holds. -/
theorem reason_eq_ruleMatch_iff {s : Snapshot}
    (built
      : (Snapshot.build (.int 0) [flag] [(("probe", "anywhere"), state name b)] []).result = .ok s)
    (holds : ((condition name b).holds c).result = .ok truth) {fallback : Datum}
    {now : AwareMoment} {d : Decision}
    (decided
      : (evaluate (some s) "probe" "anywhere" c fallback now.toMoment).result = .ok d)
    : d.reason = .ruleMatch ↔ truth = true := by
  obtain ⟨-, -, parts⟩ := (Snapshot.build_eq_ok_iff ..).mp built
  have coherent := (Snapshot.coherent_of_build built).1
  have course := coherent.evaluate_course (parts.flag_found List.mem_cons_self)
    (parts.state_found List.mem_cons_self) c fallback now decided
  have same : (state name b).projected now = state name b := rfl
  rw [course.explains.ruleMatch, same, ← rule_qualifies_iff holds]
  constructor
  · rintro ⟨-, r, member, qualifies⟩
    exact List.mem_singleton.mp member ▸ qualifies
  · intro qualifies
    exact ⟨⟨rfl, rfl⟩, rule name b, List.mem_singleton_self _, qualifies⟩

end Probe

-----------------------------------------------------------------------------------------
-- Indistinguishable contexts
-----------------------------------------------------------------------------------------

/-- Equal contexts are indistinguishable exactly if no attribute is a truth value in one of them and a
number in the other: then every condition and every segment has the same answer for both, and every
accepted snapshot decides alike about every flag at every moment with an offset. If kinds are mixed,
some condition, some segment and some accepted snapshot tell the contexts apart.
-/
theorem equalContextsIndistinguishable {context other : Context}
    (same : context.same other = true)
    : ((∀ c : Condition, (c.holds context).result = (c.holds other).result)
        ↔ ¬ context.Mixes other)
      ∧ ((∀ g : Segment, (g.admits context).result = (g.admits other).result)
        ↔ ¬ context.Mixes other)
      ∧ ((∀ s : Snapshot,
            s.Accepted
            → ∀ (flagKey environment : String) (fallback : Datum) (now : AwareMoment),
                ∃ d,
                  (evaluate (some s) flagKey environment context fallback now.toMoment).result
                      = .ok d
                  ∧ (evaluate (some s) flagKey environment other fallback now.toMoment).result
                      = .ok d)
        ↔ ¬ context.Mixes other) := by
  refine ⟨⟨?_, ?_⟩, ⟨?_, ?_⟩, ⟨?_, ?_⟩⟩
  · intro alike mixed
    obtain ⟨name, b, truth, holds, fails⟩ := Probe.exists_of_mixes mixed
    rw [alike, fails] at holds
    exact (Bool.not_eq_self truth).mp (Except.ok.inj holds)
  · intro unmixed c
    have agree := Context.agreeOn_of_same same unmixed (fun _ => True)
    rw [Condition.holds_congr (agree.attributes c.name trivial)]
  · intro alike mixed
    obtain ⟨name, b, truth, holds, fails⟩ := Probe.exists_of_mixes mixed
    have admitted := Probe.segment_admits holds
    rw [alike, Probe.segment_admits fails] at admitted
    exact (Bool.not_eq_self truth).mp (Except.ok.inj admitted)
  · intro unmixed g
    rw [Segment.admits_congr (Context.agreeOn_of_same same unmixed g.Tests)]
  · intro alike mixed
    obtain ⟨name, b, truth, holds, fails⟩ := Probe.exists_of_mixes mixed
    obtain ⟨s, built⟩ := Probe.exists_built name b
    obtain ⟨d, decided, decided'⟩ :=
      alike s ⟨_, _, _, _, built⟩ "probe" "anywhere" .null Sample.newYear
    have reason := Probe.reason_eq_ruleMatch_iff built holds decided
    rw [Probe.reason_eq_ruleMatch_iff built fails decided'] at reason
    cases truth <;> simp at reason
  · intro unmixed s accepted flagKey environment fallback now
    obtain ⟨d, decided⟩ :=
      accepted.coherent.evaluate_answers flagKey environment context fallback now
    have agree := Context.agreeOn_of_same same unmixed (s.Tests flagKey environment)
    refine ⟨d, decided, ?_⟩
    rw [← Evaluation.evaluate_congr rfl ⟨rfl, rfl, fun _ _ _ _ => rfl⟩ agree (fun _ => rfl), decided]

namespace Sample

def zero : Number := ⟨.zero, rfl⟩

def minusZero : Number := ⟨Double.zero.neg, rfl⟩

def one : Number := ⟨⟨false, 1023 * Nat.pow 2 52, by decide⟩, by decide⟩

/-- Someone who owes nothing. -/
def debtor : Context := ⟨"user", .ofList [("plan", .text "pro"), ("balance", .number minusZero)]⟩

/-- The same one, to whom nothing is owed. -/
def creditor : Context := ⟨"user", .ofList [("balance", .number zero), ("plan", .text "pro")]⟩

/-- Someone who takes part in a trial. -/
def tester : Context := ⟨"user", .ofList [("beta", .bool true)]⟩

/-- Someone who takes part in one trial. -/
def counted : Context := ⟨"user", .ofList [("beta", .number one)]⟩

end Sample

/-- Neither the order of attributes nor the sign of a zero can be told from any condition. -/
theorem sample_contexts_are_indistinguishable
    : Sample.debtor.same Sample.creditor = true
      ∧ ∀ c : Condition,
          (c.holds Sample.debtor).result = (c.holds Sample.creditor).result := by
  have same : Sample.debtor.same Sample.creditor = true := by decide +kernel
  have unmixed : ¬ Sample.debtor.Mixes Sample.creditor := by
    rintro ⟨name, a, b, found, reached, mixed⟩
    have mine
        : (name, a) ∈ [("plan", Attribute.text "pro"), ("balance", .number Sample.minusZero)] :=
      OrderedMap.get?_eq_some_iff.mp found
    have theirs
        : (name, b) ∈ [("balance", Attribute.number Sample.zero), ("plan", .text "pro")] :=
      OrderedMap.get?_eq_some_iff.mp reached
    cases mixed with
    | boolNumber p x => simp at mine
    | numberBool x p => simp at theirs
  exact ⟨same, (equalContextsIndistinguishable same).1.mpr unmixed⟩

/-- A truth value and the number one make equal contexts, of which a rule that compares with the
truth value concerns only the first one.
-/
theorem equal_contexts_with_mixed_kinds_are_told_apart
    : Sample.tester.same Sample.counted = true
      ∧ ((Probe.condition "beta" true).holds Sample.tester).result = .ok true
      ∧ ((Probe.condition "beta" true).holds Sample.counted).result = .ok false
      ∧ ∃ s d d',
          (Snapshot.build (.int 0) [Probe.flag] [(("probe", "anywhere"), Probe.state "beta" true)]
              []).result = .ok s
            ∧ (evaluate (some s) "probe" "anywhere" Sample.tester .null
                Sample.newYear.toMoment).result = .ok d
            ∧ (evaluate (some s) "probe" "anywhere" Sample.counted .null
                Sample.newYear.toMoment).result = .ok d'
            ∧ d.reason = .ruleMatch
            ∧ d'.reason ≠ .ruleMatch := by
  have holds : ((Probe.condition "beta" true).holds Sample.tester).result = .ok true := rfl
  have fails : ((Probe.condition "beta" true).holds Sample.counted).result = .ok false := rfl
  obtain ⟨s, built⟩ := Probe.exists_built "beta" true
  have coherent := (Snapshot.coherent_of_build built).1
  obtain ⟨d, decided⟩ :=
    coherent.evaluate_answers "probe" "anywhere" Sample.tester .null Sample.newYear
  obtain ⟨d', decided'⟩ :=
    coherent.evaluate_answers "probe" "anywhere" Sample.counted .null Sample.newYear
  refine ⟨by decide +kernel, holds, fails, s, d, d', built, decided, decided', ?_, ?_⟩
  · exact (Probe.reason_eq_ruleMatch_iff built holds decided).mpr rfl
  · rw [Ne, Probe.reason_eq_ruleMatch_iff built fails decided']
    decide

end FeatureFlags
