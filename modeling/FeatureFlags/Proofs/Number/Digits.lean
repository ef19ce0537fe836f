import FeatureFlags.Number.Double
import FeatureFlags.Text.Digits
import Mathlib.Algebra.Group.Nat.Defs

/-! Decimal digits of natural numbers, and the numbers that digits stand for.
-/

namespace FeatureFlags.Digits

theorem toDigits_mul_ten {n : Nat} (positive : 0 < n)
    : Nat.toDigits 10 (n * 10) = Nat.toDigits 10 n ++ ['0'] := by
  have split := Nat.toDigits_append_toDigits (b := 10) (d := 0) (by decide) positive (by decide)
  rw [Nat.toDigits_zero] at split
  rw [split, Nat.mul_comm, Nat.add_zero]

/-- The digits of a positive number do not begin with zero, by induction on the number without its
last digit.
-/
theorem exists_toDigits_eq_cons {n : Nat} (positive : 0 < n)
    : ∃ c rest, Nat.toDigits 10 n = c :: rest ∧ c ≠ '0' := by
  induction n using Nat.strongRecOn with
  | ind n ih =>
      by_cases small : n < 10
      · refine ⟨n.digitChar, [], Nat.toDigits_of_lt_base small, ?_⟩
        intro zero
        rw [Nat.digitChar_eq_zero] at zero
        omega
      · obtain ⟨c, rest, digits, nonzero⟩ := ih (n / 10) (by omega) (by omega)
        refine ⟨c, rest ++ Nat.toDigits 10 (n % 10), ?_, nonzero⟩
        have split := Nat.toDigits_append_toDigits (b := 10) (n := n / 10) (d := n % 10)
          (by decide) (by omega) (by omega)
        rw [Nat.div_add_mod] at split
        rw [← split, digits, List.cons_append]

theorem isDigit_toDigits {n : Nat} {c : Char} (member : c ∈ Nat.toDigits 10 n) : c.isDigit = true :=
  Nat.isDigit_of_mem_toDigits (by decide) (by decide) member

-----------------------------------------------------------------------------------------
-- Values of digits
-----------------------------------------------------------------------------------------

theorem value_toDigits (n : Nat) : value (Nat.toDigits 10 n) = n := Nat.ofDigitChars_ten_toDigits

theorem value_append_zeros (digits : List Char) (zeros : Nat)
    : value (digits ++ List.replicate zeros '0') = value digits * 10 ^ zeros := by
  change Nat.ofDigitChars 10 (digits ++ List.replicate zeros '0') 0 = _
  rw [Nat.ofDigitChars_append, Nat.ofDigitChars_replicate_zero, Nat.mul_comm]
  rfl

theorem value_zeros_append (digits : List Char) (zeros : Nat)
    : value (List.replicate zeros '0' ++ digits) = value digits := by
  change Nat.ofDigitChars 10 (List.replicate zeros '0' ++ digits) 0 = _
  rw [Nat.ofDigitChars_append, Nat.ofDigitChars_replicate_zero, Nat.mul_zero]
  rfl

/-- Digits do not stand for more than their number allows, by list induction. -/
theorem value_lt {digits : List Char} (allDigits : ∀ c ∈ digits, c.isDigit = true)
    : value digits < 10 ^ digits.length := by
  have bounded (n : Nat)
      : digits.foldl (fun n c => 10 * n + (c.toNat - '0'.toNat)) n + 1
        ≤ (n + 1) * 10 ^ digits.length := by
    induction digits generalizing n with
    | nil => simp
    | cons c rest ih =>
        have digit : c.toNat - '0'.toNat ≤ 9 :=
          Nat.sub_le_sub_right (Char.isDigit_iff_toNat.mp (allDigits c List.mem_cons_self)).2 _
        calc
          _ ≤ (10 * n + (c.toNat - '0'.toNat) + 1) * 10 ^ rest.length :=
            ih (fun d member => allDigits d (List.mem_cons_of_mem _ member)) _
          _ ≤ (n + 1) * 10 * 10 ^ rest.length := Nat.mul_le_mul_right _ (by omega)
          _ = (n + 1) * 10 ^ (c :: rest).length := by
            rw [List.length_cons, Nat.pow_succ', Nat.mul_assoc]
  have all := bounded 0
  rw [Nat.zero_add, Nat.one_mul] at all
  exact all

end FeatureFlags.Digits
