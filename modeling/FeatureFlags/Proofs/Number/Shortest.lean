import FeatureFlags.Number.Shortest
import FeatureFlags.Proofs.Number.Digits
import FeatureFlags.Proofs.Number.Rounding

/-! The shortest decimal of a number reads back as the number. Zeros at the end of a decimal can
move into its exponent, and the exact decimal of a number is always there to fall back on.
-/

namespace FeatureFlags

namespace Double

-----------------------------------------------------------------------------------------
-- Lengths of decimals
-----------------------------------------------------------------------------------------

theorem decimalLength_pos (n : Nat) : 0 < decimalLength n := Nat.length_toDigits_pos

theorem decimalLength_le_iff {n k : Nat} (positive : 0 < k) : decimalLength n ≤ k ↔ n < 10 ^ k :=
  Nat.length_toDigits_le_iff (by decide) positive

theorem decimalLength_mul_ten {n : Nat} (positive : 0 < n)
    : decimalLength (n * 10) = decimalLength n + 1 := by
  simp [decimalLength, Digits.toDigits_mul_ten positive]

-----------------------------------------------------------------------------------------
-- Zeros at the end of a decimal
-----------------------------------------------------------------------------------------

/-- A zero at the end of the digits can be moved into the exponent. -/
theorem ofDecimal_mul_ten (negative : Bool) (digits : Nat) (exponent : Int)
    : ofDecimal negative (digits * 10) exponent = ofDecimal negative digits (exponent + 1) := by
  rcases Nat.eq_zero_or_pos digits with rfl | positive
  · simp [ofDecimal]
  · have point : exponent + (decimalLength (digits * 10) : Int)
        = exponent + 1 + (decimalLength digits : Int) := by
      rw [decimalLength_mul_ten positive]
      omega
    have value : ofRatio negative (digits * 10 * 10 ^ exponent.toNat) (10 ^ (-exponent).toNat)
        = ofRatio negative (digits * 10 ^ (exponent + 1).toNat) (10 ^ (-(exponent + 1)).toNat) := by
      apply ofRatio_congr negative (Nat.pow_pos (by decide)) (Nat.pow_pos (by decide))
      rcases Int.lt_or_le exponent 0 with below | above
      · have whole : exponent.toNat = 0 ∧ (exponent + 1).toNat = 0 := by omega
        have places : (-exponent).toNat = (-(exponent + 1)).toNat + 1 := by omega
        rw [whole.1, whole.2, places, Nat.pow_succ]
        ring
      · have whole : (exponent + 1).toNat = exponent.toNat + 1 := by omega
        have places : (-exponent).toNat = 0 ∧ (-(exponent + 1)).toNat = 0 := by omega
        rw [whole, places.1, places.2, Nat.pow_succ]
        ring
    have nonzero : digits * 10 ≠ 0 := by omega
    simp only [ofDecimal, nonzero, positive.ne', if_false, point, Nat.pow_eq, value]

/-- So can several of them, by induction on their number. -/
theorem ofDecimal_mul_pow (negative : Bool) (digits zeros : Nat) (exponent : Int)
    : ofDecimal negative (digits * 10 ^ zeros) exponent
      = ofDecimal negative digits (exponent + zeros) := by
  induction zeros generalizing exponent with
  | zero => simp
  | succ zeros ih =>
      rw [Nat.pow_succ, ← Nat.mul_assoc, ofDecimal_mul_ten, ih]
      congr 1
      push_cast
      ring

/-- Stripping zeros does not change what a decimal reads as, by recursion of the stripping. -/
theorem readsBack_strip (x : Double) (d : Decimal) : x.readsBack d.strip = x.readsBack d := by
  fun_induction Decimal.strip d with
  | case1 d zero ih =>
      have digits : d.digits / 10 * 10 = d.digits := by omega
      have moved := ofDecimal_mul_ten x.negative (d.digits / 10) d.exponent
      rw [digits] at moved
      rw [ih, readsBack, readsBack, moved]
  | case2 d _ => rfl

-----------------------------------------------------------------------------------------
-- The shortest decimal
-----------------------------------------------------------------------------------------

/-- A decimal in the range of finite numbers is rounded as a quotient. -/
theorem ofDecimal_eq_ofRatio (negative : Bool) {digits : Nat} (nonzero : digits ≠ 0)
    {exponent : Int} (low : -400 ≤ exponent + decimalLength digits)
    (high : exponent + decimalLength digits ≤ 400)
    : ofDecimal negative digits exponent
      = ofRatio negative (digits * 10 ^ exponent.toNat) (10 ^ (-exponent).toNat) := by
  have large : ¬ 400 < exponent + (decimalLength digits : Int) := by omega
  have small : ¬ exponent + (decimalLength digits : Int) < -400 := by omega
  simp only [ofDecimal, nonzero, large, small, if_false, Nat.pow_eq]

/-- Powers of five have at most four hundred digits fewer than the power of ten. -/
theorem five_pow_length {k : Nat} (bound : k ≤ 1074) : k ≤ decimalLength (5 ^ k) + 400 := by
  by_contra shorter
  have fits : decimalLength (5 ^ k) ≤ k - 401 := by omega
  rcases Nat.eq_zero_or_pos (k - 401) with none | some
  · have positive := decimalLength_pos (5 ^ k)
    omega
  · rw [decimalLength_le_iff some] at fits
    have scaled : 10 ^ k < 10 ^ k :=
      calc 10 ^ k = 5 ^ k * 2 ^ k := by rw [← Nat.mul_pow]
        _ < 10 ^ (k - 401) * 2 ^ k := Nat.mul_lt_mul_of_pos_right fits (Nat.two_pow_pos k)
        _ ≤ 10 ^ (k - 401) * 2 ^ 1074 :=
          Nat.mul_le_mul_left _ (Nat.pow_le_pow_right (by decide) bound)
        _ ≤ 10 ^ (k - 401) * 10 ^ 401 := Nat.mul_le_mul_left _ (by decide +kernel)
        _ = 10 ^ k := by rw [← Nat.pow_add, Nat.sub_add_cancel (by omega)]
    exact Nat.lt_irrefl _ scaled

theorem exponent_le {x : Double} (finite : x.isFinite = true) : x.exponent ≤ 971 := by
  have bound : x.magnitude < infiniteMagnitude := by simpa [isFinite] using finite
  simp only [infiniteMagnitude, Nat.pow_eq] at bound
  rw [exponent_eq]
  split <;> omega

/-- A whole number is the number of its digits without an exponent. -/
theorem ofDecimal_numerator {x : Double} (finite : x.isFinite = true) (nonzero : x.isZero = false)
    (whole : 0 ≤ x.exponent)
    : ofDecimal x.negative x.numerator 0 = x := by
  have greatest := exponent_le finite
  have numerator_ne : x.numerator ≠ 0 := (numerator_pos nonzero).ne'
  have size : x.numerator < 10 ^ 400 :=
    calc x.numerator < 2 ^ 53 * 2 ^ x.exponent.toNat :=
          Nat.mul_lt_mul_of_pos_right (significand_lt x) (Nat.two_pow_pos _)
      _ ≤ 2 ^ 53 * 2 ^ 971 :=
        Nat.mul_le_mul_left _ (Nat.pow_le_pow_right (by decide) (by omega))
      _ ≤ 10 ^ 400 := by decide +kernel
  have length := (decimalLength_le_iff (by decide)).mpr size
  have denominator : x.denominator = 1 := by
    have places : (-x.exponent).toNat = 0 := by omega
    rw [denominator_eq, places, Nat.pow_zero]
  calc ofDecimal x.negative x.numerator 0 = ofRatio x.negative (x.numerator * 1) 1 :=
        ofDecimal_eq_ofRatio x.negative numerator_ne (by omega) (by omega)
    _ = ofRatio x.negative x.numerator x.denominator := by rw [denominator, Nat.mul_one]
    _ = x := ofRatio_self finite nonzero

/-- A significand has at most sixteen digits, and each five adds at most one. -/
theorem decimalLength_significand_le (x : Double) (k : Nat)
    : decimalLength (x.significand * 5 ^ k) ≤ 16 + k := by
  have size : x.significand < 10 ^ 16 := (significand_lt x).trans_le (by decide)
  rw [decimalLength_le_iff (by omega), Nat.pow_add]
  exact Nat.mul_lt_mul_of_lt_of_le size (Nat.pow_le_pow_left (by decide) k)
    (Nat.pow_pos (by decide))

theorem decimalLength_le_mul {digits : Nat} (positive : 0 < digits) (n : Nat)
    : decimalLength n ≤ decimalLength (digits * n) := by
  rw [decimalLength_le_iff (decimalLength_pos _)]
  calc n ≤ digits * n := Nat.le_mul_of_pos_left _ positive
    _ < 10 ^ decimalLength (digits * n) :=
      (decimalLength_le_iff (decimalLength_pos _)).mp (Nat.le_refl _)

/-- Halving is multiplying by five and moving the point, so a number with a fraction is its
significand times a power of five, with the point moved.
-/
theorem ofDecimal_significand {x : Double} (finite : x.isFinite = true)
    (nonzero : x.isZero = false) {k : Nat} (exponent : x.exponent = -k)
    : ofDecimal x.negative (x.significand * 5 ^ k) (-(k : Int)) = x := by
  have least := exponent_ge x
  have digits_pos := significand_pos nonzero
  have product_ne : x.significand * 5 ^ k ≠ 0 :=
    (Nat.mul_pos digits_pos (Nat.pow_pos (by decide))).ne'
  have upper := decimalLength_significand_le x k
  have lower := decimalLength_le_mul digits_pos (5 ^ k)
  have five := five_pow_length (k := k) (by omega)
  have whole : (-(k : Int)).toNat = 0 := by omega
  have places : (-(-(k : Int))).toNat = k := by omega
  have numerator : x.numerator = x.significand := by
    rw [numerator_eq, exponent, whole, Nat.pow_zero, Nat.mul_one]
  have denominator : x.denominator = 2 ^ k := by rw [denominator_eq, exponent, places]
  have value : ofRatio x.negative (x.significand * 5 ^ k * 10 ^ (-(k : Int)).toNat)
        (10 ^ (-(-(k : Int))).toNat)
      = ofRatio x.negative x.numerator x.denominator := by
    apply ofRatio_congr x.negative (Nat.pow_pos (by decide)) x.denominator_pos
    have ten : 10 ^ k = 5 ^ k * 2 ^ k := by rw [← Nat.mul_pow]
    rw [whole, places, numerator, denominator, ten]
    ring
  calc ofDecimal x.negative (x.significand * 5 ^ k) (-(k : Int))
      = ofRatio x.negative (x.significand * 5 ^ k * 10 ^ (-(k : Int)).toNat)
          (10 ^ (-(-(k : Int))).toNat) :=
        ofDecimal_eq_ofRatio x.negative product_ne (by omega) (by omega)
    _ = ofRatio x.negative x.numerator x.denominator := value
    _ = x := ofRatio_self finite nonzero

/-- The exact decimal of a number reads back as the number. -/
theorem readsBack_exactDecimal {x : Double} (finite : x.isFinite = true)
    (nonzero : x.isZero = false)
    : x.readsBack x.exactDecimal = true := by
  unfold readsBack exactDecimal
  rw [beq_iff_eq]
  split
  · next whole => exact ofDecimal_numerator finite nonzero whole
  · next fractional =>
      obtain ⟨k, same⟩ := Int.eq_ofNat_of_zero_le (a := -x.exponent) (by omega)
      obtain exponent : x.exponent = -k := by omega
      rw [same, Int.toNat_natCast, exponent]
      exact ofDecimal_significand finite nonzero exponent

/-- A neighbour is only taken if it reads back. -/
theorem readsBack_of_nearest? {x : Double} {places : Nat} {d : Decimal}
    (found : x.nearest? places = some d)
    : x.readsBack d = true := by
  unfold nearest? at found
  dsimp only at found
  split at found
  · exact List.find?_some found
  · exact List.find?_some found

/-- The shortest decimal of a number reads back as the number. -/
theorem readsBack_shortest {x : Double} (finite : x.isFinite = true) (nonzero : x.isZero = false)
    : x.readsBack x.shortest = true := by
  rw [shortest, readsBack_strip]
  cases found : (List.range 17).findSome? fun n => x.nearest? (n + 1) with
  | none => exact readsBack_exactDecimal finite nonzero
  | some d =>
      obtain ⟨n, -, nearest⟩ := List.exists_of_findSome?_eq_some found
      exact readsBack_of_nearest? nearest

/-- A decimal that reads back as a number other than zero has digits other than zero. -/
theorem digits_pos_of_readsBack {x : Double} (nonzero : x.isZero = false) {d : Decimal}
    (same : x.readsBack d = true)
    : 0 < d.digits := by
  rcases Nat.eq_zero_or_pos d.digits with zero | positive
  · rw [readsBack, beq_iff_eq, zero] at same
    rw [← same] at nonzero
    simp [ofDecimal, isZero] at nonzero
  · exact positive

end Double

end FeatureFlags
