import FeatureFlags.Condition.Evaluate
import FeatureFlags.Proofs.Outcome

/-! What operators ask. A positive operator is a relation between the value of an attribute and the
expected value, and it is about values of certain kinds only. A negated operator asks that its positive
form fail. No operator but those about presence asks anything of an attribute that is missing.
-/

namespace FeatureFlags

/-- The attributes are of one kind. -/
inductive Attribute.SameKind : Attribute → Attribute → Prop
  | bool (p q : Bool) : SameKind (.bool p) (.bool q)
  | number (x y : Number) : SameKind (.number x) (.number y)
  | text (s t : String) : SameKind (.text s) (.text t)
  | texts (s t : TextSet) : SameKind (.texts s) (.texts t)

theorem Attribute.same_refl (a : Attribute) : a.same a = true := by
  cases a <;> simp [same, Number.eq]

-----------------------------------------------------------------------------------------
-- Operators
-----------------------------------------------------------------------------------------

namespace Operator

/-- The operators that say something themselves, rather than that something is missing or fails. -/
def positive : List Operator :=
  [equals, greaterThan, lessThan, greaterOrEqual, lessOrEqual, contains, isIn, startsWith, endsWith,
    matchesPattern]

/-- The operators that say that something else fails. -/
def negative : List Operator := [notEquals, notContains, notIn]

/-- The operators that compare places on the line of numbers. -/
def ordering : List Operator := [greaterThan, lessThan, greaterOrEqual, lessOrEqual]

/-- The first operator asks that the second one fail. -/
inductive Negates : Operator → Operator → Prop
  | equals : Negates notEquals equals
  | contains : Negates notContains contains
  | isIn : Negates notIn isIn

/-- The value of an attribute and the expected value are of kinds that the operator is about. Of texts
in which to look for patterns, only regular expressions count.
-/
inductive AppliesTo : Operator → Attribute → Attribute → Prop
  | equals {a b : Attribute} (kind : a.SameKind b) : AppliesTo equals a b
  | ordering {op : Operator} (compares : op ∈ ordering) (x y : Number)
    : AppliesTo op (.number x) (.number y)
  | containsText (s t : String) : AppliesTo contains (.text s) (.text t)
  | containsMember (s : TextSet) (t : String) : AppliesTo contains (.texts s) (.text t)
  | isIn (s : String) (t : TextSet) : AppliesTo isIn (.text s) (.texts t)
  | startsWith (s t : String) : AppliesTo startsWith (.text s) (.text t)
  | endsWith (s t : String) : AppliesTo endsWith (.text s) (.text t)
  | matchesPattern (s : String) {t : String} {p : Pattern} (read : Pattern.read t = .ok p)
    : AppliesTo matchesPattern (.text s) (.text t)

/-- The value of an attribute is as the operator asks, given the expected value. -/
inductive Meets : Operator → Attribute → Attribute → Prop
  | equalBools (p : Bool) : Meets equals (.bool p) (.bool p)
  /-- The two zeros have one place. -/
  | equalNumbers {x y : Number} (place : x.value.key = y.value.key)
    : Meets equals (.number x) (.number y)
  | equalTexts (s : String) : Meets equals (.text s) (.text s)
  | equalSets (s : TextSet) : Meets equals (.texts s) (.texts s)
  | greaterThan {x y : Number} (order : y.value.key < x.value.key)
    : Meets greaterThan (.number x) (.number y)
  | lessThan {x y : Number} (order : x.value.key < y.value.key)
    : Meets lessThan (.number x) (.number y)
  | greaterOrEqual {x y : Number} (order : y.value.key ≤ x.value.key)
    : Meets greaterOrEqual (.number x) (.number y)
  | lessOrEqual {x y : Number} (order : x.value.key ≤ y.value.key)
    : Meets lessOrEqual (.number x) (.number y)
  | containsText {s t : String} (part : t.toList <:+: s.toList) : Meets contains (.text s) (.text t)
  | containsMember {s : TextSet} {t : String} (member : t ∈ s)
    : Meets contains (.texts s) (.text t)
  | isIn {s : String} {t : TextSet} (member : s ∈ t) : Meets isIn (.text s) (.texts t)
  | startsWith {s t : String} (start : t.toList <+: s.toList)
    : Meets startsWith (.text s) (.text t)
  | endsWith {s t : String} (ending : t.toList <:+ s.toList) : Meets endsWith (.text s) (.text t)
  | matchesPattern {s t : String} {p : Pattern} (read : Pattern.read t = .ok p)
    (occurs : p.occursIn s = true)
    : Meets matchesPattern (.text s) (.text t)

/-- Attributes are the same exactly if the one meets equality with the other. -/
theorem meets_equals_iff {a b : Attribute} : equals.Meets a b ↔ a.same b = true := by
  constructor
  · intro meets
    cases meets with
    | equalNumbers place => simpa [Attribute.same, Number.eq] using place
    | _ => simp [Attribute.same]
  · intro same
    cases a <;> cases b <;> simp only [Attribute.same, beq_iff_eq, reduceCtorEq] at same
    case bool.bool => exact same ▸ .equalBools _
    case number.number => exact .equalNumbers (by simpa [Number.eq] using same)
    case text.text => exact same ▸ .equalTexts _
    case texts.texts => exact same ▸ .equalSets _

/-- Whatever an operator asks, it asks of values of the kinds that it is about. -/
theorem Meets.appliesTo {op : Operator} {a b : Attribute} (meets : op.Meets a b)
    : op.AppliesTo a b := by
  cases meets with
  | equalBools p => exact .equals (.bool p p)
  | equalNumbers place => exact .equals (.number _ _)
  | equalTexts s => exact .equals (.text s s)
  | equalSets s => exact .equals (.texts s s)
  | greaterThan order => exact .ordering (by decide) _ _
  | lessThan order => exact .ordering (by decide) _ _
  | greaterOrEqual order => exact .ordering (by decide) _ _
  | lessOrEqual order => exact .ordering (by decide) _ _
  | containsText part => exact .containsText _ _
  | containsMember member => exact .containsMember _ _
  | isIn member => exact .isIn _ _
  | startsWith start => exact .startsWith _ _
  | endsWith ending => exact .endsWith _ _
  | matchesPattern read occurs => exact .matchesPattern _ read

theorem Negates.positive {op other : Operator} (negates : op.Negates other)
    : other ∈ Operator.positive := by
  cases negates <;> decide

theorem Negates.negative {op other : Operator} (negates : op.Negates other) : op ∈ negative := by
  cases negates <;> decide

theorem not_mem_negative_of_positive {op : Operator} (positive : op ∈ positive)
    : op ∉ negative := by
  revert positive
  cases op <;> decide

theorem Negates.ne_matchesPattern {op other : Operator} (negates : op.Negates other)
    : other ≠ matchesPattern := by
  cases negates <;> decide

/-- Every operator is about presence, negated or positive. -/
theorem cases_kind (op : Operator)
    : op = isSet ∨ op = isNotSet ∨ (∃ other, op.Negates other) ∨ op ∈ positive := by
  cases op
  case isSet => exact .inl rfl
  case isNotSet => exact .inr (.inl rfl)
  case notEquals => exact .inr (.inr (.inl ⟨_, .equals⟩))
  case notContains => exact .inr (.inr (.inl ⟨_, .contains⟩))
  case notIn => exact .inr (.inr (.inl ⟨_, .isIn⟩))
  all_goals exact .inr (.inr (.inr (by decide)))

end Operator

-----------------------------------------------------------------------------------------
-- Texts and sets
-----------------------------------------------------------------------------------------

theorem TextSet.contains_iff {set : TextSet} {s : String} : set.contains s = true ↔ s ∈ set :=
  List.contains_iff_mem

/-- A part occurs in a list exactly if it stands there without gaps, by list induction. -/
theorem occursIn_iff {part l : List Char} : occursIn part l = true ↔ part <:+: l := by
  induction l with
  | nil => simp [occursIn]
  | cons c rest ih =>
      simp [occursIn, ih, List.infix_cons_iff, List.isPrefixOf_iff_prefix]

-----------------------------------------------------------------------------------------
-- Conditions
-----------------------------------------------------------------------------------------

/-- The text is a regular expression, or it is malformed. Other texts ask for too many repetitions or
have contrary flags.
-/
def Pattern.Legible (text : String) : Prop :=
  (∃ p, Pattern.read text = .ok p)
  ∨ ∃ reason position, Pattern.read text = .error (.malformed reason position)

namespace Pattern

/-- Whether a text is a regular expression or malformed. -/
def isLegible (text : String) : Bool :=
  match read text with
  | .error .countless | .error .contraryFlags => false
  | _ => true

theorem isLegible_iff {text : String} : isLegible text = true ↔ Legible text := by
  unfold isLegible Legible
  cases read text with
  | ok p => simp
  | error fault => cases fault <;> simp

instance (text : String) : Decidable (Legible text) := decidable_of_iff _ isLegible_iff

end Pattern

namespace Condition

/-- If the condition matches a text as a regular expression, the text is one or it is malformed. -/
def Legible (c : Condition) : Prop :=
  ∀ text, c.operator = .matchesPattern → c.value = some (.text text) → Pattern.Legible text

variable {op : Operator} {actual : Attribute} {expected : Option Attribute}

theorem matchesIn_eq_ok_true_iff {pattern text : String}
    : (matchesIn pattern text).result = .ok true
      ↔ ∃ p, Pattern.read pattern = .ok p ∧ p.occursIn text = true := by
  unfold matchesIn matchesAs
  cases Pattern.read pattern with
  | ok p => simp
  | error fault => cases fault <;> simp [Outcome.bind_eq_ok]

theorem matchesIn_answers {pattern : String} (legible : Pattern.Legible pattern) (text : String)
    : (matchesIn pattern text).Answers := by
  unfold matchesIn matchesAs
  rcases legible with ⟨p, read⟩ | ⟨reason, position, read⟩
  · rw [read]
    exact Traced.answers_pure _
  · rw [read]
    exact Traced.Answers.bind ⟨(), rfl⟩ (fun _ _ => Traced.answers_pure false)

/-- A comparison holds exactly if there is an expected value and the attribute meets the operator. -/
theorem holdsBetween_eq_ok_true_iff
    : (holdsBetween op actual expected).result = .ok true
      ↔ ∃ b, expected = some b ∧ op.Meets actual b := by
  constructor
  · intro holds
    unfold holdsBetween at holds
    split at holds
    case h_1 => exact ⟨_, rfl, Operator.meets_equals_iff.mpr (Except.ok.inj holds)⟩
    case h_2 => exact ⟨_, rfl, .greaterThan (of_decide_eq_true (Except.ok.inj holds))⟩
    case h_3 => exact ⟨_, rfl, .lessThan (of_decide_eq_true (Except.ok.inj holds))⟩
    case h_4 => exact ⟨_, rfl, .greaterOrEqual (of_decide_eq_true (Except.ok.inj holds))⟩
    case h_5 => exact ⟨_, rfl, .lessOrEqual (of_decide_eq_true (Except.ok.inj holds))⟩
    case h_6 => exact ⟨_, rfl, .containsText (occursIn_iff.mp (Except.ok.inj holds))⟩
    case h_7 => exact ⟨_, rfl, .containsMember (TextSet.contains_iff.mp (Except.ok.inj holds))⟩
    case h_8 => exact ⟨_, rfl, .isIn (TextSet.contains_iff.mp (Except.ok.inj holds))⟩
    case h_9 =>
      exact ⟨_, rfl, .startsWith ( List.isPrefixOf_iff_prefix.mp (Except.ok.inj holds))⟩
    case h_10 =>
      exact ⟨_, rfl, .endsWith ( List.isSuffixOf_iff_suffix.mp (Except.ok.inj holds))⟩
    case h_11 =>
      obtain ⟨p, read, occurs⟩ := matchesIn_eq_ok_true_iff.mp holds
      exact ⟨_, rfl, .matchesPattern read occurs⟩
    case h_12 => simp at holds
  · rintro ⟨b, rfl, meets⟩
    cases meets with
    | equalBools p => exact congrArg Except.ok (Operator.meets_equals_iff.mp (.equalBools p))
    | equalNumbers place =>
        exact congrArg Except.ok (Operator.meets_equals_iff.mp (.equalNumbers place))
    | equalTexts s => exact congrArg Except.ok (Operator.meets_equals_iff.mp (.equalTexts s))
    | equalSets s => exact congrArg Except.ok (Operator.meets_equals_iff.mp (.equalSets s))
    | matchesPattern read occurs => exact matchesIn_eq_ok_true_iff.mpr ⟨_, read, occurs⟩
    | containsText part => exact congrArg Except.ok (occursIn_iff.mpr part)
    | containsMember member => exact congrArg Except.ok (TextSet.contains_iff.mpr member)
    | isIn member => exact congrArg Except.ok (TextSet.contains_iff.mpr member)
    | startsWith start => exact congrArg Except.ok ( List.isPrefixOf_iff_prefix.mpr start)
    | endsWith ending => exact congrArg Except.ok ( List.isSuffixOf_iff_suffix.mpr ending)
    | _ order => exact congrArg Except.ok (decide_eq_true order)

/-- Every comparison answers, if it does not look for an illegible text. -/
theorem holdsBetween_answers
    (legible
      : ∀ text, op = .matchesPattern → expected = some (.text text) → Pattern.Legible text)
    : (holdsBetween op actual expected).Answers := by
  unfold holdsBetween
  split
  case h_11 s t => exact matchesIn_answers (legible t rfl rfl) s
  all_goals exact Traced.answers_pure _

/-- A comparison of values that its operator is not about fails. -/
theorem holdsBetween_of_foreign
    (legible
      : ∀ text, op = .matchesPattern → expected = some (.text text) → Pattern.Legible text)
    (foreign : ∀ b, expected = some b → ¬ op.AppliesTo actual b)
    : (holdsBetween op actual expected).result = .ok false := by
  obtain ⟨verdict, answered⟩ : (holdsBetween op actual expected).Answers :=
    holdsBetween_answers legible
  cases verdict with
  | false => exact answered
  | true =>
      obtain ⟨b, given, meets⟩ := holdsBetween_eq_ok_true_iff.mp answered
      exact absurd meets.appliesTo (foreign b given)

variable {c : Condition} {context : Context}

theorem holds_of_isSet (asked : c.operator = .isSet)
    : (c.holds context).result = .ok (context.get? c.name).isSome := by
  unfold holds
  rw [asked]
  rfl

theorem holds_of_isNotSet (asked : c.operator = .isNotSet)
    : (c.holds context).result = .ok (context.get? c.name).isNone := by
  unfold holds
  rw [asked]
  rfl

/-- Without the attribute, only the operator that asks for its absence holds. -/
theorem holds_of_missing (missing : context.get? c.name = none)
    : (c.holds context).result = .ok (c.operator == .isNotSet) := by
  unfold holds
  rw [missing]
  cases c.operator <;> rfl

/-- With the attribute, a positive operator holds as it does between the two values. -/
theorem holds_of_positive (found : context.get? c.name = some actual)
    (positive : c.operator ∈ Operator.positive)
    : c.holds context = holdsBetween c.operator actual c.value := by
  unfold holds
  rw [found]
  cases operator : c.operator <;> simp [operator, Operator.positive] at positive ⊢ <;> rfl

/-- With the attribute, a negated operator says the opposite of its positive form. -/
theorem holds_of_negates (found : context.get? c.name = some actual)
    (negates : c.operator.Negates op)
    : (c.holds context).result
      = ({ c with operator := op }.holds context).result.map fun verdict => !verdict := by
  rw [holds_of_positive (c := { c with operator := op }) found negates.positive]
  obtain ⟨name, operator, value⟩ := c
  cases negates <;>
    simp only [holds, found, Operator.negated?, Traced.result_bind] <;>
    rfl

/-- A legible condition answers in every context. -/
theorem Legible.answers (legible : c.Legible) (context : Context) : (c.holds context).Answers := by
  cases found : context.get? c.name with
  | none => exact ⟨_, holds_of_missing found⟩
  | some actual =>
      rcases c.operator.cases_kind with asked | asked | ⟨other, negates⟩ | positive
      · exact ⟨_, holds_of_isSet asked⟩
      · exact ⟨_, holds_of_isNotSet asked⟩
      · obtain ⟨verdict, answered⟩ : (holdsBetween other actual c.value).Answers :=
          holdsBetween_answers (fun text matching _ => absurd matching negates.ne_matchesPattern)
        refine ⟨!verdict, ?_⟩
        rw [holds_of_negates found negates,
          holds_of_positive (c := { c with operator := other }) found negates.positive, answered]
        rfl
      · rw [holds_of_positive found positive]
        exact holdsBetween_answers legible

end Condition

/-- Conditions count only what is there and what they are about. Without its attribute a condition
holds exactly if it asks for the absence of it. With the attribute, presence and absence are answered
by that, each negated operator says the opposite of its positive form, and a positive operator holds
exactly if the two values are as it asks; so it fails wherever they are of kinds that it is not about.
-/
theorem operatorsObeyAbsenceAndNegation {c : Condition} (legible : c.Legible)
    (context : Context)
    : (context.get? c.name = none
        → ∃ verdict,
            (c.holds context).result = .ok verdict ∧ (verdict = true ↔ c.operator = .isNotSet))
      ∧ ∀ actual, context.get? c.name = some actual
          → (c.operator = .isSet → (c.holds context).result = .ok true)
            ∧ (c.operator = .isNotSet → (c.holds context).result = .ok false)
            ∧ (∀ positive, c.operator.Negates positive
                → ∃ verdict,
                    ({ c with operator := positive }.holds context).result = .ok verdict
                    ∧ (c.holds context).result = .ok !verdict)
            ∧ (c.operator ∈ Operator.positive
                → (∃ verdict,
                    (c.holds context).result = .ok verdict
                    ∧ (verdict = true
                      ↔ ∃ expected, c.value = some expected ∧ c.operator.Meets actual expected))
                  ∧ ((∀ expected, c.value = some expected → ¬ c.operator.AppliesTo actual expected)
                    → (c.holds context).result = .ok false)) := by
  refine ⟨fun missing => ⟨_, Condition.holds_of_missing missing, by simp⟩, ?_⟩
  intro actual found
  have answers : ∃ verdict, (c.holds context).result = .ok verdict := legible.answers context
  refine ⟨?_, ?_, ?_, ?_⟩
  · intro asked
    rw [Condition.holds_of_isSet asked, found]
    rfl
  · intro asked
    rw [Condition.holds_of_isNotSet asked, found]
    rfl
  · intro positive negates
    have legible' : ({ c with operator := positive } : Condition).Legible :=
      fun text matching _ => absurd matching negates.ne_matchesPattern
    obtain ⟨verdict, answered⟩ := legible'.answers context
    refine ⟨verdict, answered, ?_⟩
    rw [Condition.holds_of_negates found negates, answered]
    rfl
  · intro positive
    obtain ⟨verdict, answered⟩ := answers
    have between := answered
    rw [Condition.holds_of_positive found positive] at between
    refine ⟨⟨verdict, answered, ?_⟩, ?_⟩
    · rw [← Condition.holdsBetween_eq_ok_true_iff, between]
      simp
    · intro foreign
      rw [Condition.holds_of_positive found positive]
      exact Condition.holdsBetween_of_foreign legible foreign

namespace Sample

/-- A search for a regular expression that is malformed. -/
def unclosed : Condition := ⟨"name", .matchesPattern, some (.text "(unclosed")⟩

/-- Someone with a name. -/
def visitor : Context := ⟨"user", .ofList [("name", .text "(unclosed")]⟩

end Sample

/-- A malformed regular expression is found in no text, not even in its own. -/
theorem sample_malformed_pattern_fails
    : Sample.unclosed.Legible
      ∧ Sample.visitor.get? Sample.unclosed.name = some (.text "(unclosed")
      ∧ (Sample.unclosed.holds Sample.visitor).result = .ok false := by
  have readable : Pattern.Legible "(unclosed" := by decide +kernel
  have legible : Sample.unclosed.Legible := by
    rintro text - given
    obtain rfl := Attribute.text.inj (Option.some.inj given)
    exact readable
  have found : Sample.visitor.get? Sample.unclosed.name = some (.text "(unclosed") := by decide
  obtain ⟨-, present⟩ := operatorsObeyAbsenceAndNegation legible Sample.visitor
  obtain ⟨-, -, -, positive⟩ := present _ found
  refine ⟨legible, found, (positive (by decide)).2 ?_⟩
  intro expected given applies
  obtain rfl := Option.some.inj given
  have malformed : (Pattern.read "(unclosed").isOk = false := by decide +kernel
  cases applies with
  | matchesPattern _ read => simp [read, Except.isOk, Except.toBool] at malformed

end FeatureFlags
