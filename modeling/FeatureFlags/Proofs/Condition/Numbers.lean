import FeatureFlags.Condition.Evaluate
import FeatureFlags.Proofs.Context.Reading
import FeatureFlags.Proofs.Number.Order

/-! Conditions about numbers. Attributes and the values that conditions compare with are doubles; what
is not a number is refused by both, so any two of them are comparable. Integers are rounded on both
sides, which keeps their order and, up to fifty-three bits, keeps them apart.
-/

namespace FeatureFlags

-----------------------------------------------------------------------------------------
-- Numbers as loose data
-----------------------------------------------------------------------------------------

/-- An integer or a double. -/
inductive Datum.Numeric : Datum → Prop
  | int (n : Int) : Numeric (.int n)
  | double (x : Double) : Numeric (.double x)

/-- The number for which loose data stand. Integers are rounded. -/
inductive Number.Represents (v : Number) : Datum → Prop
  | int {n : Int} (rounded : Double.ofInt? n = some v.value) : Represents v (.int n)
  | double : Represents v (.double v.value)

theorem Number.value_of_of? {x : Double} {v : Number} (found : Number.of? x = some v)
    : v.value = x := by
  unfold of? at found
  split at found
  · exact congrArg Number.value (Option.some.inj found).symm
  · contradiction

/-- A numeric attribute is the number for which its data stand. -/
theorem Attribute.exists_number {x : Datum} (numeric : x.Numeric) {a : Attribute}
    (accepted : ofDatum? x = .ok (some a))
    : ∃ v : Number, a = .number v ∧ v.Represents x := by
  cases numeric with
  | int n =>
      unfold ofDatum? at accepted
      dsimp only at accepted
      split at accepted
      · next x rounded =>
        obtain ⟨v, found, rfl⟩ := Option.map_eq_some_iff.mp (Except.ok.inj accepted)
        exact ⟨v, rfl, .int (Number.value_of_of? found ▸ rounded)⟩
      · contradiction
  | double x =>
      obtain ⟨v, found, rfl⟩ := Option.map_eq_some_iff.mp (Except.ok.inj accepted)
      exact ⟨v, rfl, Number.value_of_of? found ▸ .double⟩

-----------------------------------------------------------------------------------------
-- Conditions
-----------------------------------------------------------------------------------------

namespace Operator

/-- The operators that compare numbers. -/
def numeric : List Operator :=
  [lessThan, equals, greaterThan, lessOrEqual, greaterOrEqual, notEquals]

/-- What such an operator says about integers. -/
def compares (op : Operator) (m n : Int) : Bool :=
  match op with
  | lessThan => m < n
  | equals => m == n
  | greaterThan => n < m
  | lessOrEqual => m ≤ n
  | greaterOrEqual => n ≤ m
  | notEquals => m != n
  | _ => false

/-- Integers in the same order are compared alike. -/
theorem compares_congr {m n m' n' : Int} (less : m < n ↔ m' < n') (greater : n < m ↔ n' < m')
    (op : Operator)
    : op.compares m n = op.compares m' n' := by
  have equal : m = n ↔ m' = n' := by omega
  cases op <;>
    simp only [compares, less, greater, ← Int.not_lt, Bool.beq_eq_decide_eq, bne, equal]

end Operator

namespace Condition

/-- The parts of a condition that is made of a name, an operator and a value. -/
theorem of_eq_ok {name : String} {op : Operator} {value : Datum} {c : Condition}
    : of (.text name) op value = .ok c
      ↔ (name ≠ "" ∧ c.name = name)
        ∧ c.operator = op
        ∧ readValue value = .ok c.value := by
  have named
      : Field.required [("attribute", .text name), ("operator", .text op.word), ("value", value)]
          "attribute" Field.properText = .ok c.name
        ↔ name ≠ "" ∧ c.name = name := by
    simp [Field.required_eq_ok, Field.properText_text_eq_ok]
  have operated
      : Field.required [("attribute", .text name), ("operator", .text op.word), ("value", value)]
          "operator" (Field.word (Operator.all.map fun op => (op.word, op))) = .ok c.operator
        ↔ c.operator = op := by
    rw [eq_comm (a := c.operator)]
    simp [Field.required_eq_ok, List.lookup_cons, Snapshot.word_operator]
  have valued
      : Field.optional [("attribute", .text name), ("operator", .text op.word), ("value", value)]
          "value" none readValue = .ok c.value
        ↔ readValue value = .ok c.value := by
    simp [Field.optional_eq_ok, List.lookup_cons]
  simp only [of, Checked.toExcept_eq_ok, read_eq_ok, Datum.record.injEq, exists_eq_left']
  constructor
  · rintro ⟨name, operator, value⟩
    exact ⟨named.mp name, operated.mp operator, valued.mp value⟩
  · rintro ⟨name, operator, value⟩
    exact ⟨named.mpr name, operated.mpr operator, valued.mpr value⟩

/-- The value of a numeric condition is the number for which its data stand. -/
theorem exists_number {y : Datum} (numeric : y.Numeric) {value : Option Attribute}
    (read : readValue y = .ok value)
    : ∃ w : Number, value = some (.number w) ∧ w.Represents y := by
  have given : y ≠ .null := by cases numeric <;> simp
  unfold readValue at read
  split at read
  · exact absurd rfl given
  · split at read
    · next a accepted =>
      obtain ⟨w, rfl, represents⟩ := Attribute.exists_number numeric accepted
      exact ⟨w, (Checked.ok.inj read).symm, represents⟩
    · contradiction
    · contradiction

/-- Between numbers a condition says what its operator says about their places on the line. -/
theorem holds_of_numbers {context : Context} {name : String} {v w : Number}
    (found : context.get? name = some (.number v)) {op : Operator} (numeric : op ∈ Operator.numeric)
    : ((⟨name, op, some (.number w)⟩ : Condition).holds context).result
      = .ok (op.compares v.value.key w.value.key) := by
  simp only [Operator.numeric, List.mem_cons, List.not_mem_nil, or_false] at numeric
  rcases numeric with rfl | rfl | rfl | rfl | rfl | rfl
  case inr.inr.inr.inr.inr =>
    simp only [holds, found, Operator.negated?, Traced.result_bind]
    rfl
  all_goals
    simp [holds, found, Operator.negated?, holdsBetween, Operator.compares, Attribute.same,
      Number.eq, Number.lt, Number.le]

end Condition

-----------------------------------------------------------------------------------------
-- Integers on both sides
-----------------------------------------------------------------------------------------

namespace Number

variable {v w : Number} {m n : Int}

theorem rounded_of_represents (represents : v.Represents (.int n))
    : Double.ofInt? n = some v.value := by
  cases represents with
  | int rounded => exact rounded

/-- Small integers are in the same order as the doubles for which they stand. -/
theorem key_lt_key_iff (left : v.Represents (.int m)) (right : w.Represents (.int n))
    (small : m.natAbs ≤ 2 ^ 53) (small' : n.natAbs ≤ 2 ^ 53)
    : v.value.key < w.value.key ↔ m < n := by
  have rounded := rounded_of_represents left
  have rounded' := rounded_of_represents right
  constructor
  · intro less
    by_contra order
    have keys := Double.key_le_key rounded' rounded (Int.not_lt.mp order)
    omega
  · exact Double.key_lt_key rounded rounded' small small'

end Number

/-- Conditions order numbers. Let an accepted context have a number under some name, an integer or a
double, and let a condition with some number be accepted for this name by one operator. Then it is
accepted with every operator that compares numbers, all of these conditions answer, and exactly one of
the three strict relations holds; the others are made of these. Integers stay in their order, however
large they are, and integers of at most fifty-three bits, or the next one, are compared as integers.
-/
theorem numbersAreOrdered {entityId : Datum} {pairs : List (Datum × Datum)} {context : Context}
    (made : Context.of entityId pairs = .ok context) (distinct : (pairs.map Prod.fst).Nodup)
    {name : String} {x y : Datum} (given : (.text name, x) ∈ pairs) (numeric : x.Numeric)
    (numeric' : y.Numeric) {operator : Operator} {accepted : Condition}
    (expected : Condition.of (.text name) operator y = .ok accepted)
    : ∃ verdict : Operator → Bool,
        (∀ op ∈ Operator.numeric, ∃ c,
            Condition.of (.text name) op y = .ok c
            ∧ (c.holds context).result = .ok (verdict op))
        ∧ [verdict .lessThan, verdict .equals, verdict .greaterThan].count true = 1
        ∧ verdict .lessOrEqual = (verdict .lessThan || verdict .equals)
        ∧ verdict .greaterOrEqual = (verdict .greaterThan || verdict .equals)
        ∧ verdict .notEquals = !verdict .equals
        ∧ ∀ m n : Int,
            x = .int m
            → y = .int n
            → (m ≤ n → verdict .lessOrEqual = true ∧ verdict .greaterThan = false)
              ∧ (m.natAbs ≤ 2 ^ 53
                → n.natAbs ≤ 2 ^ 53
                → ∀ op ∈ Operator.numeric, verdict op = op.compares m n) := by
  obtain ⟨a, read, found⟩ := Context.exists_get? made distinct given
  obtain ⟨v, rfl, left⟩ := Attribute.exists_number numeric read
  obtain ⟨⟨proper, rfl⟩, -, valued⟩ := Condition.of_eq_ok.mp expected
  obtain ⟨w, value, right⟩ := Condition.exists_number numeric' valued
  rw [value] at valued
  refine ⟨fun op => op.compares v.value.key w.value.key, ?_, ?_, ?_, ?_, ?_, ?_⟩
  · intro op compared
    exact ⟨⟨accepted.name, op, some (.number w)⟩,
      Condition.of_eq_ok.mpr ⟨⟨proper, rfl⟩, rfl, valued⟩,
      Condition.holds_of_numbers found compared⟩
  · rcases lt_trichotomy v.value.key w.value.key with less | same | greater
    · simp [Operator.compares, less, less.ne, less.le]
    · simp [Operator.compares, same]
    · simp [Operator.compares, greater, greater.ne', greater.le]
  · simp only [Operator.compares]
    grind
  · simp only [Operator.compares]
    grind
  · rfl
  · rintro m n rfl rfl
    refine ⟨?_, ?_⟩
    · intro order
      have keys := Double.key_le_key (Number.rounded_of_represents left)
        (Number.rounded_of_represents right) order
      simp [Operator.compares, keys]
    · intro small small' op compared
      exact Operator.compares_congr (Number.key_lt_key_iff left right small small')
        (Number.key_lt_key_iff right left small' small) op

/-- Seventeen is less than eighteen, whichever operator one asks. -/
theorem sample_ages_are_ordered
    : ∃ context,
        Context.of (.text "user") [(.text "age", .int 17)] = .ok context
        ∧ ∀ op ∈ Operator.numeric, ∃ c,
            Condition.of (.text "age") op (.int 18) = .ok c
            ∧ (c.holds context).result = .ok (op.compares 17 18) := by
  obtain ⟨context, made⟩
      : ∃ context, Context.of (.text "user") [(.text "age", .int 17)] = .ok context :=
    Outcome.exists_of_isOk (by decide +kernel)
  obtain ⟨accepted, expected⟩
      : ∃ accepted, Condition.of (.text "age") .equals (.int 18) = .ok accepted :=
    Outcome.exists_of_isOk (by decide +kernel)
  obtain ⟨verdict, answers, -, -, -, -, integers⟩ :=
    numbersAreOrdered made (by simp) List.mem_cons_self (.int 17) (.int 18) expected
  have same := (integers 17 18 rfl rfl).2 (by decide) (by decide)
  refine ⟨context, made, ?_⟩
  intro op compared
  rw [← same op compared]
  exact answers op compared

end FeatureFlags
