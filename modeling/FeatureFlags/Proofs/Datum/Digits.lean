import FeatureFlags.Datum.Digits
import FeatureFlags.Proofs.Number.Digits
import Mathlib.Data.Nat.Digits.Defs

/-! Which data hold integers with too many digits: those in which one of the integers is a power of ten
or more away from zero. All other integers can be written, and only they can be read.
-/

namespace FeatureFlags

namespace Datum

theorem isOverlong_int_iff {n : Int}
    : isOverlong (.int n) = true ↔ 10 ^ mostDigits ≤ n.natAbs := by
  rw [isOverlong, Nat.pow_eq, decide_eq_true_iff]

@[simp] theorem isOverlong_null : isOverlong .null = false := rfl

@[simp] theorem isOverlong_bool (b : Bool) : isOverlong (.bool b) = false := rfl

@[simp] theorem isOverlong_double (x : Double) : isOverlong (.double x) = false := rfl

@[simp] theorem isOverlong_text (s : String) : isOverlong (.text s) = false := rfl

@[simp] theorem isOverlong_list (members : List Datum)
    : isOverlong (.list members) = members.any isOverlong := by
  rw [isOverlong]
  induction members with
  | nil => rfl
  | cons x rest ih => rw [anyOverlong, ih, List.any_cons]

@[simp] theorem isOverlong_record (entries : List (String × Datum))
    : isOverlong (.record entries) = entries.any fun e => e.2.isOverlong := by
  rw [isOverlong]
  induction entries with
  | nil => rfl
  | cons e rest ih => rw [anyEntryOverlong, ih, List.any_cons]

theorem isOverlong_list_iff {members : List Datum}
    : isOverlong (.list members) = true ↔ ∃ x ∈ members, x.isOverlong = true := by
  rw [isOverlong_list, List.any_eq_true]

theorem isOverlong_record_iff {entries : List (String × Datum)}
    : isOverlong (.record entries) = true ↔ ∃ e ∈ entries, e.2.isOverlong = true := by
  rw [isOverlong_record, List.any_eq_true]

theorem isOverlong_int_eq_false_iff {n : Int}
    : isOverlong (.int n) = false ↔ n.natAbs < 10 ^ mostDigits := by
  rw [← Bool.not_eq_true, isOverlong_int_iff, Nat.not_le]

/-- An integer that can be written out has no more digits than can be read. -/
theorem length_toDigits_le {n : Int} (short : isOverlong (.int n) = false)
    : (Nat.toDigits 10 n.natAbs).length ≤ mostDigits :=
  (Nat.length_toDigits_le_iff (by decide) (by decide)).mpr
    (isOverlong_int_eq_false_iff.mp short)

/-- An integer closer to zero than a power of ten with so many zeros can be written out. -/
theorem isOverlong_int_of_lt {n : Int} {places : Nat} (small : n.natAbs < 10 ^ places)
    (few : places ≤ mostDigits)
    : isOverlong (.int n) = false :=
  isOverlong_int_eq_false_iff.mpr
    (Nat.lt_of_lt_of_le small (Nat.pow_le_pow_right (by decide) few))

/-- An integer that is read from digits can be written out. -/
theorem exists_of_ofDigits {Fault : Type} {negative : Bool} {digits : List Char} {x : Datum}
    (allDigits : ∀ c ∈ digits, c.isDigit = true)
    (read : (ofDigits negative digits : Except (Unread Fault) Datum) = .ok x)
    : ∃ n, x = .int n ∧ isOverlong (.int n) = false := by
  unfold ofDigits at read
  split at read
  · contradiction
  · next short =>
      obtain rfl := Except.ok.inj read
      refine ⟨_, rfl, isOverlong_int_of_lt ?_ (Nat.not_lt.mp short)⟩
      have bounded := Digits.value_lt allDigits
      split <;> simpa using bounded

end Datum

end FeatureFlags
