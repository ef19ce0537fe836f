import FeatureFlags.Proofs.Condition.Meaning
import FeatureFlags.Proofs.Snapshot.Consistency

/-! The check of conditions, held against what conditions say. A condition that is refused as invalid
says the same about every value of its attribute, so nothing is lost with it. A condition that is
accepted distinguishes some values from others, unless it asks for a member of the empty set or for a
number beyond the infinities.
-/

namespace FeatureFlags

-----------------------------------------------------------------------------------------
-- Refused conditions
-----------------------------------------------------------------------------------------

namespace Condition

/-- What the check of a condition ends with if it does not accept it. -/
inductive Refusal (c : Condition) (place : String) : Failure → Prop
  | invalid (detail : String) (legible : c.Legible) : Refusal c place (c.fault place detail)
  | illegible {text : String} {fault : Pattern.Fault} (operator : c.operator = .matchesPattern)
    (value : c.value = some (.text text)) (unread : Pattern.read text = .error fault)
    (other : fault = .countless ∨ fault = .contraryFlags)
    : Refusal c place (.pattern text fault)

variable {c : Condition} {place : String}

/-- A usable condition is legible. -/
theorem Usable.legible (usable : c.Usable) : c.Legible := by
  intro text matching given
  obtain ⟨s, p, same, read⟩ := usable.exists_pattern matching
  obtain rfl := Attribute.text.inj (Option.some.inj (same.symm.trans given))
  exact .inl ⟨p, read⟩

/-- The check of a regular expression refuses what cannot be read. -/
theorem refusal_of_checkPattern {text : String} {e : Failure}
    (operator : c.operator = .matchesPattern) (value : c.value = some (.text text))
    (failed : c.checkPattern place text = .error e)
    : c.Refusal place e := by
  unfold checkPattern at failed
  cases read : Pattern.read text with
  | ok p => simp [read] at failed
  | error fault =>
      cases fault with
      | malformed reason position =>
          rw [read] at failed
          obtain rfl := Except.error.inj failed
          refine .invalid _ ?_
          intro other _ given
          obtain rfl := Attribute.text.inj (Option.some.inj (value.symm.trans given))
          exact .inr ⟨reason, position, read⟩
      | countless =>
          rw [read] at failed
          exact Except.error.inj failed ▸ .illegible operator value read (.inl rfl)
      | contraryFlags =>
          rw [read] at failed
          exact Except.error.inj failed ▸ .illegible operator value read (.inr rfl)

/-- The check of a condition refuses values that are missing or of the wrong kind, and regular
expressions that cannot be read.
-/
theorem refusal_of_check {e : Failure} (failed : c.check place = .error e) : c.Refusal place e := by
  unfold check at failed
  split at failed
  · contradiction
  · next value =>
    obtain rfl := Except.error.inj failed
    exact .invalid _ (fun text _ given => by simp [value] at given)
  · next needed value required given =>
    split at failed
    · next unfit =>
      obtain rfl := Except.error.inj failed
      refine .invalid _ ?_
      intro text matching same
      rw [matching] at required
      obtain rfl := Option.some.inj required
      obtain rfl := Option.some.inj (given.symm.trans same)
      simp [Operand.admits] at unfit
    · split at failed
      · next text operator _ => exact refusal_of_checkPattern operator given failed
      · contradiction

/-- A condition is usable if its operator, or the one that it negates, is about the expected value and
some value of the attribute.
-/
theorem usable_of_appliesTo {op : Operator} {a b : Attribute} (given : c.value = some b)
    (asked : op = c.operator ∨ c.operator.Negates op) (applies : op.AppliesTo a b)
    : c.Usable := by
  obtain ⟨name, operator, value⟩ := c
  obtain rfl : value = some b := given
  rcases asked with rfl | negates
  · cases applies with
    | equals kind => exact ⟨_, rfl⟩
    | ordering compares x y =>
        simp only [Operator.ordering, List.mem_cons, List.not_mem_nil, or_false] at compares
        rcases compares with rfl | rfl | rfl | rfl <;> exact ⟨y, rfl⟩
    | matchesPattern s read => exact ⟨_, rfl, _, read⟩
    | _ => exact ⟨_, rfl⟩
  · cases negates <;> cases applies with
    | ordering compares x y => simp [Operator.ordering] at compares
    | _ => exact ⟨_, rfl⟩

/-- A condition that is legible and still not usable says the same of every value. -/
theorem holds_of_not_usable (legible : c.Legible) (unusable : ¬ c.Usable) {context : Context}
    {actual : Attribute} (found : context.get? c.name = some actual)
    : (c.holds context).result = .ok (decide (c.operator ∈ Operator.negative)) := by
  have foreign {op : Operator} (asked : op = c.operator ∨ c.operator.Negates op) (b : Attribute)
      (given : c.value = some b)
      : ¬ op.AppliesTo actual b :=
    fun applies => unusable (usable_of_appliesTo given asked applies)
  rcases c.operator.cases_kind with presence | presence | ⟨op, negates⟩ | positive
  · exact absurd (by simp [Usable, presence]) unusable
  · exact absurd (by simp [Usable, presence]) unusable
  · have fails : (holdsBetween op actual c.value).result = .ok false :=
      holdsBetween_of_foreign (fun _ matching _ => absurd matching negates.ne_matchesPattern)
        (foreign (.inr negates))
    rw [holds_of_negates found negates,
      holds_of_positive (c := { c with operator := op }) found negates.positive, fails,
      decide_eq_true negates.negative]
    rfl
  · rw [holds_of_positive found positive,
      decide_eq_false (Operator.not_mem_negative_of_positive positive)]
    exact holdsBetween_of_foreign legible (foreign (.inl rfl))

end Condition

/-- Conditions that are refused as invalid would not have told any two values of their attribute apart.
Whatever fault the check reports, it is that the condition is invalid; and in every context that has the
attribute the condition says the same, namely that it holds if its operator is a negated one, and that
it fails otherwise.
-/
theorem refusedConditionsAgree {c : Condition} {place : String} {f : Fault}
    (refused : c.check place = .error (.fault f))
    : f.kind = .invalidCondition
      ∧ ∃ verdict,
          (verdict = true ↔ c.operator ∈ [.notEquals, .notContains, .notIn])
          ∧ ∀ context actual,
              context.get? c.name = some actual
              → (c.holds context).result = .ok verdict := by
  have unusable : ¬ c.Usable := by
    rw [← Condition.check_eq_ok_iff c place, refused]
    simp
  generalize same : Failure.fault f = e at refused
  cases Condition.refusal_of_check refused with
  | illegible => contradiction
  | invalid detail legible =>
      obtain rfl := Failure.fault.inj same
      refine ⟨rfl, _, decide_eq_true_iff, ?_⟩
      intro context actual found
      exact Condition.holds_of_not_usable legible unusable found

namespace Sample

/-- A condition that takes a single text for a set of texts. -/
def outside : Condition := ⟨"country", .notIn, some (.text "FR")⟩

end Sample

/-- Nobody is in what is no set of texts, so everybody with a country would be outside of it. -/
theorem sample_misread_set_is_refused
    : ∃ f,
        Sample.outside.check "segment 'abroad'" = .error (.fault f)
        ∧ ∀ context actual,
            context.get? "country" = some actual
            → (Sample.outside.holds context).result = .ok true := by
  obtain ⟨f, refused⟩ : ∃ f, Sample.outside.check "segment 'abroad'" = .error (.fault f) := ⟨_, rfl⟩
  refine ⟨f, refused, ?_⟩
  obtain ⟨-, verdict, negated, constant⟩ := refusedConditionsAgree refused
  obtain rfl : verdict = true := negated.mpr (by decide)
  exact constant

-----------------------------------------------------------------------------------------
-- The ends of the line of numbers
-----------------------------------------------------------------------------------------

namespace Number

/-- The last number on either side. -/
def infinity (negative : Bool) : Number :=
  ⟨.infinity negative, by simp [Double.isNaN, Double.infinity]⟩

theorem magnitude_le (x : Number) : x.value.magnitude ≤ Double.infiniteMagnitude := by
  have notNaN := x.notNaN
  simpa [Double.isNaN] using notNaN

theorem key_lt_infinity {x : Number} (other : x ≠ infinity false)
    : x.value.key < (infinity false).value.key := by
  have bound := x.magnitude_le
  obtain ⟨⟨negative, magnitude, room⟩, notNaN⟩ := x
  have positive : 0 < Double.infiniteMagnitude := by decide
  cases negative with
  | true =>
      simp only [Double.key, infinity, Double.infinity, if_true, Bool.false_eq_true, if_false]
      omega
  | false =>
      have less : magnitude ≠ Double.infiniteMagnitude := by
        rintro rfl
        exact other rfl
      simp only [Double.key, infinity, Double.infinity, Bool.false_eq_true, if_false] at bound ⊢
      omega

theorem infinity_lt_key {x : Number} (other : x ≠ infinity true)
    : (infinity true).value.key < x.value.key := by
  have bound := x.magnitude_le
  obtain ⟨⟨negative, magnitude, room⟩, notNaN⟩ := x
  have positive : 0 < Double.infiniteMagnitude := by decide
  cases negative with
  | true =>
      have less : magnitude ≠ Double.infiniteMagnitude := by
        rintro rfl
        exact other rfl
      simp only [Double.key, infinity, Double.infinity, if_true] at bound ⊢
      omega
  | false =>
      simp only [Double.key, infinity, Double.infinity, if_true, Bool.false_eq_true, if_false]
      omega

/-- No number lies beyond the infinities. -/
theorem key_between (x : Number)
    : (infinity true).value.key ≤ x.value.key ∧ x.value.key ≤ (infinity false).value.key := by
  constructor
  · by_cases last : x = infinity true
    · exact last ▸ Int.le_refl _
    · exact Int.le_of_lt (infinity_lt_key last)
  · by_cases last : x = infinity false
    · exact last ▸ Int.le_refl _
    · exact Int.le_of_lt (key_lt_infinity last)

end Number

-----------------------------------------------------------------------------------------
-- Accepted conditions
-----------------------------------------------------------------------------------------

namespace Operator

/-- Nothing is in the empty set, above the upper infinity or below the lower one. -/
inductive Unmeetable : Operator → Attribute → Prop
  | isIn : Unmeetable isIn (.texts ∅)
  | greaterThan : Unmeetable greaterThan (.number (.infinity false))
  | lessThan : Unmeetable lessThan (.number (.infinity true))

theorem Unmeetable.not_meets {op : Operator} {b : Attribute} (unmeetable : op.Unmeetable b)
    (a : Attribute)
    : ¬ op.Meets a b := by
  intro meets
  cases unmeetable with
  | isIn =>
      cases meets with
      | isIn member => exact List.not_mem_nil member
  | greaterThan =>
      cases meets with
      | @greaterThan x _ order => exact Int.not_lt.mpr x.key_between.2 order
  | lessThan =>
      cases meets with
      | @lessThan x _ order => exact Int.not_lt.mpr x.key_between.1 order

theorem Unmeetable.positive {op : Operator} {b : Attribute} (unmeetable : op.Unmeetable b)
    : op ∈ Operator.positive := by
  cases unmeetable <;> decide

/-- Of the operators that are negated, only membership can be unmeetable. -/
theorem Negates.unmeetable_iff {op other : Operator} (negates : op.Negates other) {b : Attribute}
    : other.Unmeetable b ↔ op = notIn ∧ b = .texts ∅ := by
  constructor
  · intro unmeetable
    cases negates <;> cases unmeetable
    exact ⟨rfl, rfl⟩
  · rintro ⟨rfl, rfl⟩
    cases negates
    exact .isIn

/-- For every expected value there are values that an operator is not about. -/
theorem exists_not_appliesTo (op : Operator) (b : Attribute) : ∃ a, ¬ op.AppliesTo a b := by
  cases b with
  | bool p =>
      refine ⟨.text "", fun applies => ?_⟩
      cases applies with
      | equals kind => cases kind
  | _ =>
      refine ⟨.bool true, fun applies => ?_⟩
      cases applies with
      | equals kind => cases kind

end Operator

namespace Condition

/-- In some context that has the attribute, the condition answers so. -/
def CanSay (c : Condition) (verdict : Bool) : Prop :=
  ∃ context actual, context.get? c.name = some actual ∧ (c.holds context).result = .ok verdict

/-- The context that has a single attribute. -/
def contextOf (name : String) (a : Attribute) : Context := ⟨"", .ofList [(name, a)]⟩

theorem get?_contextOf (name : String) (a : Attribute)
    : (contextOf name a).get? name = some a := by
  refine OrderedMap.get?_eq_some_iff.mpr ?_
  rw [contextOf, OrderedMap.entries_ofList (by simp)]
  exact List.mem_singleton_self _

variable {c : Condition} {op : Operator}

theorem canSay_iff_of_negates (negates : c.operator.Negates op) (verdict : Bool)
    : c.CanSay verdict ↔ ({ c with operator := op } : Condition).CanSay !verdict := by
  refine exists_congr fun context => exists_congr fun actual => and_congr_right fun found => ?_
  rw [holds_of_negates found negates]
  cases ({ c with operator := op }.holds context).result <;> cases verdict <;> simp [Except.map]

theorem canSay_true_iff (positive : c.operator ∈ Operator.positive)
    : c.CanSay true ↔ ∃ a b, c.value = some b ∧ c.operator.Meets a b := by
  constructor
  · rintro ⟨context, actual, found, holds⟩
    rw [holds_of_positive found positive, holdsBetween_eq_ok_true_iff] at holds
    exact ⟨actual, holds⟩
  · rintro ⟨a, meets⟩
    refine ⟨contextOf c.name a, a, get?_contextOf c.name a, ?_⟩
    rwa [holds_of_positive (get?_contextOf c.name a) positive, holdsBetween_eq_ok_true_iff]

theorem not_canSay_true {b : Attribute} (given : c.value = some b)
    (unmeetable : c.operator.Unmeetable b)
    : ¬ c.CanSay true := by
  rw [canSay_true_iff unmeetable.positive]
  rintro ⟨a, b', same, meets⟩
  obtain rfl := Option.some.inj (given.symm.trans same)
  exact unmeetable.not_meets a meets

/-- Every positive operator fails for values of a kind that it is not about. -/
theorem canSay_false (positive : c.operator ∈ Operator.positive) (legible : c.Legible)
    : c.CanSay false := by
  obtain ⟨a, foreign⟩ : ∃ a, ∀ b, c.value = some b → ¬ c.operator.AppliesTo a b := by
    cases c.value with
    | none => exact ⟨.bool true, by simp⟩
    | some b =>
        obtain ⟨a, foreign⟩ := c.operator.exists_not_appliesTo b
        exact ⟨a, fun _ same => Option.some.inj same ▸ foreign⟩
  refine ⟨contextOf c.name a, a, get?_contextOf c.name a, ?_⟩
  rw [holds_of_positive (get?_contextOf c.name a) positive]
  exact holdsBetween_of_foreign legible foreign

/-- Except for those that nothing meets, the expected values of usable conditions are met by themselves,
by a set with them as its only member, by one of their members or by an infinity.
-/
theorem exists_meets_iff (usable : c.Usable) (positive : c.operator ∈ Operator.positive)
    (plain : c.operator ≠ .matchesPattern)
    : (∃ a b, c.value = some b ∧ c.operator.Meets a b)
      ↔ ¬ ∃ b, c.value = some b ∧ c.operator.Unmeetable b := by
  constructor
  · rintro ⟨a, b, given, meets⟩ ⟨b', same, unmeetable⟩
    obtain rfl := Option.some.inj (given.symm.trans same)
    exact unmeetable.not_meets a meets
  · intro meetable
    obtain ⟨name, operator, value⟩ := c
    cases operator <;> simp only [Usable] at usable
    case equals =>
      obtain ⟨b, rfl⟩ := usable
      exact ⟨b, b, rfl, Operator.meets_equals_iff.mpr b.same_refl⟩
    case greaterThan =>
      obtain ⟨y, rfl⟩ := usable
      have last : y ≠ .infinity false := by
        rintro rfl
        exact meetable ⟨_, rfl, .greaterThan⟩
      exact ⟨_, _, rfl, .greaterThan (Number.key_lt_infinity last)⟩
    case lessThan =>
      obtain ⟨y, rfl⟩ := usable
      have last : y ≠ .infinity true := by
        rintro rfl
        exact meetable ⟨_, rfl, .lessThan⟩
      exact ⟨_, _, rfl, .lessThan (Number.infinity_lt_key last)⟩
    case greaterOrEqual =>
      obtain ⟨y, rfl⟩ := usable
      exact ⟨_, _, rfl, .greaterOrEqual (Int.le_refl y.value.key)⟩
    case lessOrEqual =>
      obtain ⟨y, rfl⟩ := usable
      exact ⟨_, _, rfl, .lessOrEqual (Int.le_refl y.value.key)⟩
    case contains =>
      obtain ⟨s, rfl⟩ := usable
      exact ⟨_, _, rfl, .containsText (List.infix_refl s.toList)⟩
    case isIn =>
      obtain ⟨⟨elements, ascending⟩, rfl⟩ := usable
      cases elements with
      | nil => exact absurd ⟨_, rfl, .isIn⟩ meetable
      | cons s rest => exact ⟨.text s, _, rfl, .isIn List.mem_cons_self⟩
    case startsWith =>
      obtain ⟨s, rfl⟩ := usable
      exact ⟨_, _, rfl, .startsWith (List.prefix_refl s.toList)⟩
    case endsWith =>
      obtain ⟨s, rfl⟩ := usable
      exact ⟨_, _, rfl, .endsWith (List.suffix_refl s.toList)⟩
    case matchesPattern => contradiction
    all_goals simp [Operator.positive] at positive

/-- The form of a usable condition that is not negated is usable, too. -/
theorem Usable.of_negates (usable : c.Usable) (negates : c.operator.Negates op)
    : ({ c with operator := op } : Condition).Usable := by
  obtain ⟨name, operator, value⟩ := c
  cases negates <;> exact usable

end Condition

/-- Conditions that are accepted tell some values of their attribute from others, unless their expected
value makes this impossible. Take any accepted condition that compares, regular expressions apart. It
holds in some context that has the attribute, unless it asks for a member of the empty set or for a
number beyond the last one on either side; and it fails in some context that has the attribute, unless
it asks for what is not in the empty set. The check does not refuse these four.
-/
theorem acceptedConditionsDistinguish {c : Condition} {place : String}
    (accepted : c.check place = .ok ())
    (compares : c.operator ∉ [.isSet, .isNotSet, .matchesPattern])
    : (c.CanSay true ↔ ¬ ∃ b, c.value = some b ∧ c.operator.Unmeetable b)
      ∧ (c.CanSay false ↔ ¬ (c.operator = .notIn ∧ c.value = some (.texts ∅))) := by
  have usable := (Condition.check_eq_ok_iff c place).mp accepted
  simp only [List.mem_cons, List.not_mem_nil, or_false, not_or] at compares
  obtain ⟨notPresence, notAbsence, plain⟩ := compares
  rcases c.operator.cases_kind with presence | presence | ⟨op, negates⟩ | positive
  · exact absurd presence notPresence
  · exact absurd presence notAbsence
  · have usable' := usable.of_negates negates
    rw [Condition.canSay_iff_of_negates negates, Condition.canSay_iff_of_negates negates,
      Bool.not_true, Bool.not_false, Condition.canSay_true_iff negates.positive,
      Condition.exists_meets_iff usable' negates.positive negates.ne_matchesPattern]
    have fails := Condition.canSay_false (c := { c with operator := op }) negates.positive
      usable'.legible
    refine ⟨iff_of_true fails ?_, not_congr ?_⟩
    · rintro ⟨b, -, unmeetable⟩
      exact Operator.not_mem_negative_of_positive unmeetable.positive negates.negative
    · simp only [negates.unmeetable_iff]
      constructor
      · rintro ⟨_, given, negated, rfl⟩
        exact ⟨negated, given⟩
      · rintro ⟨negated, given⟩
        exact ⟨_, given, negated, rfl⟩
  · rw [Condition.canSay_true_iff positive, Condition.exists_meets_iff usable positive plain]
    refine ⟨Iff.rfl, iff_of_true (Condition.canSay_false positive usable.legible) ?_⟩
    rintro ⟨negated, -⟩
    rw [negated] at positive
    contradiction

namespace Sample

/-- Nothing less than the last number. -/
def unbounded : Condition := ⟨"score", .greaterOrEqual, some (.number (.infinity false))⟩

def amongNone : Condition := ⟨"country", .isIn, some (.texts ∅)⟩

def outsideNone : Condition := ⟨"country", .notIn, some (.texts ∅)⟩

def aboveAll : Condition := ⟨"score", .greaterThan, some (.number (.infinity false))⟩

def belowAll : Condition := ⟨"score", .lessThan, some (.number (.infinity true))⟩

end Sample

/-- A bound at an infinity that includes it tells the infinity from everything else. -/
theorem sample_bound_distinguishes
    : Sample.unbounded.check "segment 'top'" = .ok ()
      ∧ Sample.unbounded.CanSay true
      ∧ Sample.unbounded.CanSay false := by
  have accepted : Sample.unbounded.check "segment 'top'" = .ok () := rfl
  obtain ⟨holds, fails⟩ := acceptedConditionsDistinguish accepted (by decide)
  refine ⟨accepted, holds.mpr ?_, fails.mpr ?_⟩
  · rintro ⟨b, given, unmeetable⟩
    obtain rfl := Option.some.inj given
    cases unmeetable
  · rintro ⟨negated, -⟩
    contradiction

/-- Four conditions are accepted although three of them hold for no value of their attribute and the
other one for every value.
-/
theorem vacuous_conditions_are_accepted
    : (∀ c ∈ [Sample.amongNone, Sample.aboveAll, Sample.belowAll],
        c.check "segment 'nobody'" = .ok () ∧ ¬ c.CanSay true)
      ∧ Sample.outsideNone.check "segment 'everybody'" = .ok ()
      ∧ ¬ Sample.outsideNone.CanSay false := by
  simp only [List.forall_mem_cons, List.not_mem_nil, false_implies, implies_true, and_true]
  refine ⟨⟨⟨rfl, Condition.not_canSay_true rfl .isIn⟩,
    ⟨rfl, Condition.not_canSay_true rfl .greaterThan⟩,
    ⟨rfl, Condition.not_canSay_true rfl .lessThan⟩⟩, rfl, ?_⟩
  rw [Condition.canSay_iff_of_negates (c := Sample.outsideNone) .isIn]
  exact Condition.not_canSay_true rfl .isIn

end FeatureFlags
