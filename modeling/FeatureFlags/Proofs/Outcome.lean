import FeatureFlags.Event

/-! Laws of computations that may fail: what a sequence of them answers, and when the tests of a
list answer at all. Later modules open computations with these laws and not by unfolding.
-/

namespace FeatureFlags

variable {α β : Type}

-----------------------------------------------------------------------------------------
-- Computations without events
-----------------------------------------------------------------------------------------

namespace Outcome

variable {ε : Type}

/-- A sequence succeeds when its first part does and the rest succeeds on its answer. -/
theorem bind_eq_ok {x : Except ε α} {next : α → Except ε β} {b : β}
    : (x >>= next) = .ok b ↔ ∃ a, x = .ok a ∧ next a = .ok b := by
  cases x <;> simp [Bind.bind, Except.bind]

/-- A sequence fails when its first part does, or with the rest after its answer. -/
theorem bind_eq_error {x : Except ε α} {next : α → Except ε β} {e : ε}
    : (x >>= next) = .error e ↔ x = .error e ∨ ∃ a, x = .ok a ∧ next a = .error e := by
  cases x <;> simp [Bind.bind, Except.bind]

/-- A check followed by another computation succeeds when both do. -/
theorem check_bind_eq_ok {x : Except ε Unit} {next : Unit → Except ε β} {b : β}
    : (x >>= next) = .ok b ↔ x = .ok () ∧ next () = .ok b := by
  cases x <;> simp [Bind.bind, Except.bind]

theorem map_eq_ok {x : Except ε α} {f : α → β} {b : β}
    : x.map f = .ok b ↔ ∃ a, x = .ok a ∧ f a = b := by
  cases x <;> simp [Except.map]

theorem pure_eq_ok {a b : α} : (pure a : Except ε α) = .ok b ↔ a = b := by
  simp [Pure.pure, Except.pure]

theorem mapError_eq_ok {ε' : Type} {x : Except ε α} {f : ε → ε'} {a : α}
    : x.mapError f = .ok a ↔ x = .ok a := by
  cases x with
  | ok b =>
      constructor <;>
        intro same <;>
        cases same <;>
        rfl
  | error e =>
      constructor <;>
        intro same <;>
        cases same

theorem exists_of_isOk {x : Except ε α} (succeeds : x.isOk = true) : ∃ a, x = .ok a := by
  cases x with
  | ok a => exact ⟨a, rfl⟩
  | error e => contradiction

end Outcome

-----------------------------------------------------------------------------------------
-- Computations with events
-----------------------------------------------------------------------------------------

namespace Traced

@[simp] theorem result_pure (a : α) : (pure a : Traced α).result = .ok a := rfl

@[simp] theorem result_fail (e : Failure) : (fail e : Traced α).result = .error e := rfl

@[simp] theorem result_lift (x : Except Failure α) : (lift x).result = x := rfl

@[simp] theorem result_emit (event : Event) : (emit event).result = .ok () := rfl

@[simp] theorem result_bind (x : Traced α) (next : α → Traced β)
    : (x >>= next).result = x.result >>= fun a => (next a).result := by
  change (Traced.bind x next).result = _
  unfold Traced.bind
  cases x.result <;> rfl

theorem result_pure_bind (a : α) (next : α → Traced β)
    : (pure a >>= next).result = (next a).result := by
  rw [result_bind]
  rfl

/-- A computation that cannot fail and has no events leaves nothing but its answer. -/
theorem lift_ok_bind (a : α) (next : α → Traced β) : (lift (.ok a) >>= next) = next a := by
  change (⟨(next a).result, [] ++ (next a).events⟩ : Traced β) = next a
  rw [List.nil_append]

/-- Sequences that go on alike from every answer of their first part are the same. -/
theorem bind_congr {x : Traced α} {next other : α → Traced β}
    (same : ∀ a, x.result = .ok a → next a = other a)
    : (x >>= next) = (x >>= other) := by
  change Traced.bind x next = Traced.bind x other
  unfold Traced.bind
  cases reached : x.result with
  | error e => rfl
  | ok a => simp only [same a reached]

/-- Tests that agree on all members of a list agree on the list, by list induction. -/
theorem all_congr {test other : α → Traced Bool} {l : List α} (same : ∀ a ∈ l, test a = other a)
    : all test l = all other l := by
  induction l with
  | nil => rfl
  | cons a rest ih =>
      have later := ih (fun b member => same b (List.mem_cons_of_mem a member))
      simp only [all, same a List.mem_cons_self, later]

/-- Tests that agree on all members of a list find the same among them, by list induction. -/
theorem any_congr {test other : α → Traced Bool} {l : List α} (same : ∀ a ∈ l, test a = other a)
    : any test l = any other l := by
  induction l with
  | nil => rfl
  | cons a rest ih =>
      have later := ih (fun b member => same b (List.mem_cons_of_mem a member))
      simp only [any, same a List.mem_cons_self, later]

/-- A test that goes on to another one only if it holds, holds when both do. -/
theorem both_eq_ok_true_iff {x y : Traced Bool}
    : (x >>= fun holds => if holds then y else pure false).result = .ok true
      ↔ x.result = .ok true ∧ y.result = .ok true := by
  rw [result_bind, Outcome.bind_eq_ok]
  constructor
  · rintro ⟨holds, first, second⟩
    cases holds with
    | true => exact ⟨first, second⟩
    | false => simp at second
  · rintro ⟨first, second⟩
    exact ⟨true, first, second⟩

theorem result_both_true (x : Traced Bool)
    : (x >>= fun holds => if holds then pure true else pure false).result = x.result := by
  rw [result_bind]
  cases x.result with
  | error e => rfl
  | ok holds => cases holds <;> rfl

theorem all_singleton_result (test : α → Traced Bool) (a : α)
    : (all test [a]).result = (test a).result :=
  result_both_true (test a)

/-- A test of all members of a list holds when it holds of each, by list induction. -/
theorem all_eq_ok_true_iff {test : α → Traced Bool} {l : List α}
    : (all test l).result = .ok true ↔ ∀ a ∈ l, (test a).result = .ok true := by
  induction l with
  | nil => simp [all]
  | cons a rest ih => rw [List.forall_mem_cons, ← ih, all, both_eq_ok_true_iff]

/-- A test for some member of a list fails when it fails of each, by list induction. -/
theorem any_eq_ok_false_iff {test : α → Traced Bool} {l : List α}
    : (any test l).result = .ok false ↔ ∀ a ∈ l, (test a).result = .ok false := by
  induction l with
  | nil => simp [any]
  | cons a rest ih =>
      rw [List.forall_mem_cons, ← ih, any, result_bind, Outcome.bind_eq_ok]
      constructor
      · rintro ⟨holds, first, later⟩
        cases holds with
        | true => simp at later
        | false => exact ⟨first, later⟩
      · rintro ⟨first, later⟩
        exact ⟨false, first, later⟩

/-- A test for some member of a list holds when it holds of one and fails of those before it, by list
induction.
-/
theorem any_eq_ok_true_iff {test : α → Traced Bool} {l : List α}
    : (any test l).result = .ok true
      ↔ ∃ before a after,
          l = before ++ a :: after
          ∧ (∀ b ∈ before, (test b).result = .ok false)
          ∧ (test a).result = .ok true := by
  induction l with
  | nil => simp [any]
  | cons a rest ih =>
      rw [any, result_bind, Outcome.bind_eq_ok]
      constructor
      · rintro ⟨holds, first, later⟩
        cases holds with
        | true => exact ⟨[], a, rest, rfl, by simp, first⟩
        | false =>
            obtain ⟨before, b, after, rfl, passed, found⟩ := ih.mp later
            exact ⟨a :: before, b, after, rfl, List.forall_mem_cons.mpr ⟨first, passed⟩, found⟩
      · rintro ⟨before, b, after, split, passed, found⟩
        cases before with
        | nil =>
            obtain ⟨rfl, rfl⟩ := List.cons.inj split
            exact ⟨true, found, rfl⟩
        | cons c before =>
            obtain ⟨rfl, rfl⟩ := List.cons.inj split
            obtain ⟨first, passed⟩ := List.forall_mem_cons.mp passed
            exact ⟨false, first, ih.mpr ⟨before, b, after, rfl, passed, found⟩⟩

/-- The computation does not fail. -/
def Answers (x : Traced α) : Prop := ∃ a, x.result = .ok a

theorem answers_pure (a : α) : (pure a : Traced α).Answers := ⟨a, rfl⟩

/-- A sequence answers when its first part does and the rest answers on every answer of it. -/
theorem Answers.bind {x : Traced α} {next : α → Traced β} (first : x.Answers)
    (later : ∀ a, x.result = .ok a → (next a).Answers)
    : (x >>= next).Answers := by
  obtain ⟨a, found⟩ := first
  obtain ⟨b, reached⟩ := later a found
  exact ⟨b, by rw [result_bind, Outcome.bind_eq_ok]; exact ⟨a, found, reached⟩⟩

/-- A test of all members of a list answers when the test of each does, by list induction. -/
theorem answers_all {test : α → Traced Bool} {l : List α} (each : ∀ a ∈ l, (test a).Answers)
    : (all test l).Answers := by
  induction l with
  | nil => exact answers_pure true
  | cons a rest ih =>
      refine (each a (by simp)).bind ?_
      intro holds _
      cases holds with
      | true => exact ih (fun b member => each b (List.mem_cons_of_mem a member))
      | false => exact answers_pure false

/-- A test for some member of a list answers when the test of each of them does, by list induction.
-/
theorem answers_any {test : α → Traced Bool} {l : List α} (each : ∀ a ∈ l, (test a).Answers)
    : (any test l).Answers := by
  induction l with
  | nil => exact answers_pure false
  | cons a rest ih =>
      refine (each a (by simp)).bind ?_
      intro holds _
      cases holds with
      | true => exact answers_pure true
      | false => exact ih (fun b member => each b (List.mem_cons_of_mem a member))

end Traced

end FeatureFlags
