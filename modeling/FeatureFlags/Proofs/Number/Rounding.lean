import FeatureFlags.Number.Double
import Mathlib.Algebra.Order.Field.Power
import Mathlib.Data.Int.Log
import Mathlib.Data.Rat.Floor
import Mathlib.Tactic.Ring

/-! Rounding a quotient of natural numbers depends on its value alone, and a number is its own
rounding.
-/

namespace FeatureFlags

/-- The rounded quotient does not change when both numbers are scaled. -/
theorem roundDiv_scale {scale : Nat} (positive : 0 < scale) (num den : Nat)
    : roundDiv (num * scale) (den * scale) = roundDiv num den := by
  have twice : 2 * (num % den * scale) = 2 * (num % den) * scale := by rw [Nat.mul_assoc]
  have below : 2 * (num % den) * scale < den * scale ↔ 2 * (num % den) < den :=
    Nat.mul_lt_mul_right positive
  have above : den * scale < 2 * (num % den) * scale ↔ den < 2 * (num % den) :=
    Nat.mul_lt_mul_right positive
  simp only [roundDiv, Nat.mul_div_mul_right _ _ positive, Nat.mul_mod_mul_right, twice, below,
    above]

/-- A quotient without remainder is not changed by rounding. -/
theorem roundDiv_exact (n : Nat) {den : Nat} (positive : 0 < den) : roundDiv (n * den) den = n := by
  simp [roundDiv, positive, Nat.mul_div_cancel n positive]

namespace Double

-----------------------------------------------------------------------------------------
-- The scale of a quotient
-----------------------------------------------------------------------------------------

theorem cast_two_zpow_log2_le {n : Nat} (positive : 0 < n) : (2 : ℚ) ^ (n.log2 : Int) ≤ n := by
  have bound := Nat.log2_self_le (Nat.pos_iff_ne_zero.mp positive)
  rw [zpow_natCast]
  exact_mod_cast bound

theorem lt_cast_two_zpow_log2 (n : Nat) : (n : ℚ) < 2 ^ ((n.log2 : Int) + 1) := by
  have bound := Nat.lt_log2_self (n := n)
  have exponent : ((n.log2 : Int) + 1) = ((n.log2 + 1 : Nat) : Int) := by simp
  rw [exponent, zpow_natCast]
  exact_mod_cast bound

/-- Comparing the quotient with a power of two needs no division. -/
theorem cross_lt_iff (num : Nat) {den : Nat} (positive : 0 < den) (e : Int)
    : (if 0 ≤ e then num < den * 2 ^ e.toNat else num * 2 ^ (-e).toNat < den)
      ↔ (num : ℚ) / den < 2 ^ e := by
  have den_pos : (0 : ℚ) < den := by exact_mod_cast positive
  rw [div_lt_iff₀ den_pos, mul_comm]
  split
  · next nonneg =>
      obtain ⟨k, rfl⟩ := Int.eq_ofNat_of_zero_le nonneg
      rw [zpow_natCast]
      norm_cast
  · next negative =>
      obtain ⟨k, same⟩ := Int.eq_ofNat_of_zero_le (a := -e) (by omega)
      obtain rfl : e = -k := by omega
      have power_pos : (0 : ℚ) < 2 ^ k := by positivity
      rw [neg_neg, zpow_neg, zpow_natCast, inv_mul_eq_div, lt_div_iff₀ power_pos]
      norm_cast

/-- The scale follows from the greatest power of two that is at most the quotient. -/
theorem scaleOf_eq {num den : Nat} (num_pos : 0 < num) (den_pos : 0 < den)
    : scaleOf num den = (Int.log 2 ((num : ℚ) / den) + 1022).toNat := by
  have num_cast : (0 : ℚ) < num := by exact_mod_cast num_pos
  have den_cast : (0 : ℚ) < den := by exact_mod_cast den_pos
  have quotient_pos : (0 : ℚ) < num / den := div_pos num_cast den_cast
  have num_low := cast_two_zpow_log2_le num_pos
  have num_high := lt_cast_two_zpow_log2 num
  have den_low := cast_two_zpow_log2_le den_pos
  have den_high := lt_cast_two_zpow_log2 den
  have low : (num.log2 : Int) - den.log2 - 1 ≤ Int.log 2 ((num : ℚ) / den) := by
    rw [← Int.zpow_le_iff_le_log (by decide) quotient_pos, le_div_iff₀ den_cast]
    calc ((2 : Nat) : ℚ) ^ ((num.log2 : Int) - den.log2 - 1) * den
        ≤ 2 ^ ((num.log2 : Int) - den.log2 - 1) * 2 ^ ((den.log2 : Int) + 1) := by
          push_cast
          gcongr
      _ = 2 ^ (num.log2 : Int) := by
          rw [← zpow_add₀ (by norm_num)]
          congr 1
          ring
      _ ≤ num := num_low
  have high : Int.log 2 ((num : ℚ) / den) < (num.log2 : Int) - den.log2 + 1 := by
    rw [← Int.lt_zpow_iff_log_lt (by decide) quotient_pos, div_lt_iff₀ den_cast]
    calc (num : ℚ) < 2 ^ ((num.log2 : Int) + 1) := num_high
      _ = 2 ^ ((num.log2 : Int) - den.log2 + 1) * 2 ^ (den.log2 : Int) := by
          rw [← zpow_add₀ (by norm_num)]
          congr 1
          ring
      _ ≤ ((2 : Nat) : ℚ) ^ ((num.log2 : Int) - den.log2 + 1) * den := by
          push_cast
          gcongr
  have below := cross_lt_iff num den_pos ((num.log2 : Int) - den.log2)
  have compared := Int.lt_zpow_iff_log_lt (b := 2) (by decide) quotient_pos
    (x := (num.log2 : Int) - den.log2)
  push_cast at compared
  rw [compared] at below
  unfold scaleOf
  simp only [Nat.pow_eq, below]
  split <;> omega

-----------------------------------------------------------------------------------------
-- Rounding a quotient
-----------------------------------------------------------------------------------------

theorem scaleOf_scale {scale : Nat} (positive : 0 < scale) {num den : Nat} (num_pos : 0 < num)
    (den_pos : 0 < den)
    : scaleOf (num * scale) (den * scale) = scaleOf num den := by
  have scale_ne : (scale : ℚ) ≠ 0 := by exact_mod_cast positive.ne'
  rw [scaleOf_eq (Nat.mul_pos num_pos positive) (Nat.mul_pos den_pos positive),
    scaleOf_eq num_pos den_pos]
  push_cast
  rw [mul_div_mul_right _ _ scale_ne]

/-- The nearest magnitude depends on the value of the quotient alone. -/
theorem roundMagnitude_scale {scale : Nat} (positive : 0 < scale) (num : Nat) {den : Nat}
    (den_pos : 0 < den)
    : roundMagnitude (num * scale) (den * scale) = roundMagnitude num den := by
  rcases Nat.eq_zero_or_pos num with rfl | num_pos
  · simp [roundMagnitude]
  · have nonzero : num * scale ≠ 0 := (Nat.mul_pos num_pos positive).ne'
    have left (k : Nat) : num * scale * 2 ^ k = num * 2 ^ k * scale := Nat.mul_right_comm ..
    have right (k : Nat) : den * scale * 2 ^ k = den * 2 ^ k * scale := Nat.mul_right_comm ..
    simp only [roundMagnitude, nonzero, num_pos.ne', if_false, Nat.pow_eq,
      scaleOf_scale positive num_pos den_pos, left, right, roundDiv_scale positive]

/-- Quotients of the same value have the same nearest magnitude. -/
theorem roundMagnitude_congr {num den num' den' : Nat} (den_pos : 0 < den) (den_pos' : 0 < den')
    (same : num * den' = num' * den)
    : roundMagnitude num den = roundMagnitude num' den' := by
  calc roundMagnitude num den = roundMagnitude (num * den') (den * den') :=
        (roundMagnitude_scale den_pos' num den_pos).symm
    _ = roundMagnitude (num' * den) (den' * den) := by rw [same, Nat.mul_comm den den']
    _ = roundMagnitude num' den' := roundMagnitude_scale den_pos num' den_pos'

theorem ofRatio_congr (negative : Bool) {num den num' den' : Nat} (den_pos : 0 < den)
    (den_pos' : 0 < den') (same : num * den' = num' * den)
    : ofRatio negative num den = ofRatio negative num' den' := by
  simp only [ofRatio, roundMagnitude_congr den_pos den_pos' same]

-----------------------------------------------------------------------------------------
-- Exact quotients
-----------------------------------------------------------------------------------------

theorem significand_eq (x : Double)
    : x.significand
      = if x.magnitude < 2 ^ 52 then x.magnitude else x.magnitude % 2 ^ 52 + 2 ^ 52 := rfl

theorem exponent_eq (x : Double)
    : x.exponent
      = if x.magnitude < 2 ^ 52 then (-1074 : Int) else (x.magnitude / 2 ^ 52 : Nat) - 1075 := rfl

theorem numerator_eq (x : Double) : x.numerator = x.significand * 2 ^ x.exponent.toNat := rfl

theorem denominator_eq (x : Double) : x.denominator = 2 ^ (-x.exponent).toNat := rfl

/-- A magnitude is its significand and, above, its scale. -/
theorem magnitude_eq (x : Double)
    : x.magnitude = (x.exponent + 1074).toNat * 2 ^ 52 + x.significand := by
  rw [exponent_eq, significand_eq]
  split <;> omega

theorem exponent_ge (x : Double) : -1074 ≤ x.exponent := by
  rw [exponent_eq]
  split <;> omega

theorem significand_lt (x : Double) : x.significand < 2 ^ 53 := by
  rw [significand_eq]
  split <;> omega

/-- Only at the least exponent do significands have fewer than fifty-three bits. -/
theorem le_significand (x : Double) : x.exponent = -1074 ∨ 2 ^ 52 ≤ x.significand := by
  rw [exponent_eq, significand_eq]
  split <;> omega

theorem significand_pos {x : Double} (nonzero : x.isZero = false) : 0 < x.significand := by
  have positive : 0 < x.magnitude := by
    simp only [isZero, beq_eq_false_iff_ne] at nonzero
    omega
  rw [significand_eq]
  split <;> omega

theorem numerator_pos {x : Double} (nonzero : x.isZero = false) : 0 < x.numerator :=
  Nat.mul_pos (significand_pos nonzero) (Nat.two_pow_pos _)

/-- The numerator and the denominator are those of the significand times a power of two. -/
theorem numerator_div_denominator (x : Double)
    : (x.numerator : ℚ) / x.denominator = x.significand * 2 ^ x.exponent := by
  rw [numerator_eq, denominator_eq]
  push_cast
  rcases Int.le_total 0 x.exponent with nonneg | nonpos
  · obtain ⟨k, same⟩ := Int.eq_ofNat_of_zero_le nonneg
    simp [same]
  · obtain ⟨k, same⟩ := Int.eq_ofNat_of_zero_le (a := -x.exponent) (by omega)
    obtain same' : x.exponent = -k := by omega
    simp [same', div_eq_mul_inv]

/-- The scale of a number other than zero is the one that it is stored with. -/
theorem scaleOf_self {x : Double} (nonzero : x.isZero = false)
    : scaleOf x.numerator x.denominator = (x.exponent + 1074).toNat := by
  have positive := significand_pos nonzero
  have cast_pos : (0 : ℚ) < x.significand := by exact_mod_cast positive
  have value_pos : (0 : ℚ) < x.significand * 2 ^ x.exponent := by positivity
  have upper : Int.log 2 ((x.significand : ℚ) * 2 ^ x.exponent) < x.exponent + 53 := by
    rw [← Int.lt_zpow_iff_log_lt (by decide) value_pos, add_comm]
    push_cast
    rw [zpow_add₀ (by norm_num)]
    gcongr
    exact_mod_cast significand_lt x
  rw [scaleOf_eq (numerator_pos nonzero) x.denominator_pos, numerator_div_denominator]
  rcases le_significand x with least | large
  · omega
  · have lower : x.exponent + 52 ≤ Int.log 2 ((x.significand : ℚ) * 2 ^ x.exponent) := by
      rw [← Int.zpow_le_iff_le_log (by decide) value_pos, add_comm]
      push_cast
      rw [zpow_add₀ (by norm_num)]
      gcongr
      exact_mod_cast large
    omega

/-- A finite number is its own rounding. -/
theorem ofRatio_self {x : Double} (finite : x.isFinite = true) (nonzero : x.isZero = false)
    : ofRatio x.negative x.numerator x.denominator = x := by
  have bound : x.magnitude < infiniteMagnitude := by simpa [isFinite] using finite
  have least := exponent_ge x
  have rounded : roundMagnitude x.numerator x.denominator = x.magnitude := by
    rw [roundMagnitude, if_neg (numerator_pos nonzero).ne', scaleOf_self nonzero]
    have significand
        : (if (x.exponent + 1074).toNat ≤ 1074 then
            roundDiv (x.numerator * 2 ^ (1074 - (x.exponent + 1074).toNat)) x.denominator
          else roundDiv x.numerator (x.denominator * 2 ^ ((x.exponent + 1074).toNat - 1074)))
          = x.significand := by
      split
      · next small =>
          have whole : x.exponent.toNat = 0 := by omega
          have places : 1074 - (x.exponent + 1074).toNat = (-x.exponent).toNat := by omega
          rw [numerator_eq, denominator_eq, whole, places, Nat.pow_zero, Nat.mul_one]
          exact roundDiv_exact _ (Nat.two_pow_pos _)
      · next large =>
          have whole : (-x.exponent).toNat = 0 := by omega
          have places : (x.exponent + 1074).toNat - 1074 = x.exponent.toNat := by omega
          rw [numerator_eq, denominator_eq, whole, places, Nat.pow_zero, Nat.one_mul]
          exact roundDiv_exact _ (Nat.two_pow_pos _)
    simp only [Nat.pow_eq]
    rw [significand, ← magnitude_eq, Nat.min_eq_left bound.le]
  obtain ⟨negative, magnitude, fits⟩ := x
  simp only [ofRatio, rounded]

end Double

end FeatureFlags
