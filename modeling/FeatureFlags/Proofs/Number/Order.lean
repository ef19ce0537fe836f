import FeatureFlags.Proofs.Number.Rounding

/-! Rounding keeps order. Numbers at a greater scale are greater, and at one scale the significands
decide, since they have fifty-three bits. Whole numbers of at most fifty-three bits are rounded to
themselves, so among them no two become equal.
-/

namespace FeatureFlags

-----------------------------------------------------------------------------------------
-- Rounding to whole numbers
-----------------------------------------------------------------------------------------

theorem div_le_roundDiv (num den : Nat) : num / den ≤ roundDiv num den := by
  unfold roundDiv
  dsimp only
  split
  · exact Nat.le_refl _
  · split <;> omega

theorem roundDiv_le (num den : Nat) : roundDiv num den ≤ num / den + 1 := by
  unfold roundDiv
  dsimp only
  split
  · exact Nat.le_succ _
  · split <;> omega

/-- Of quotients with one denominator the smaller one is not rounded to more. If their whole parts are
the same, the remainders decide.
-/
theorem roundDiv_le_roundDiv_left {num num' : Nat} (order : num ≤ num') (den : Nat)
    : roundDiv num den ≤ roundDiv num' den := by
  rcases (Nat.div_le_div_right order : num / den ≤ num' / den).lt_or_eq with less | same
  · calc roundDiv num den ≤ num / den + 1 := roundDiv_le num den
      _ ≤ num' / den := less
      _ ≤ roundDiv num' den := div_le_roundDiv num' den
  · have remainder : num % den ≤ num' % den := by
      have parts := Nat.div_add_mod num den
      have parts' := Nat.div_add_mod num' den
      rw [same] at parts
      omega
    simp only [roundDiv, same]
    split
    · split
      · exact Nat.le_refl _
      · split <;> omega
    · split <;> split <;> (try split) <;> omega

theorem roundDiv_le_roundDiv {num den num' den' : Nat} (den_pos : 0 < den) (den_pos' : 0 < den')
    (order : (num : ℚ) / den ≤ num' / den')
    : roundDiv num den ≤ roundDiv num' den' := by
  have cast_pos : (0 : ℚ) < den := by exact_mod_cast den_pos
  have cast_pos' : (0 : ℚ) < den' := by exact_mod_cast den_pos'
  have cross : num * den' ≤ num' * den := by
    rw [div_le_div_iff₀ cast_pos cast_pos'] at order
    exact_mod_cast order
  calc roundDiv num den = roundDiv (num * den') (den * den') :=
        (roundDiv_scale den_pos' num den).symm
    _ ≤ roundDiv (num' * den) (den * den') := roundDiv_le_roundDiv_left cross _
    _ = roundDiv (num' * den) (den' * den) := by rw [Nat.mul_comm den den']
    _ = roundDiv num' den' := roundDiv_scale den_pos num' den'

/-- What is at most a whole number is rounded to at most this number. -/
theorem roundDiv_le_of_le {num den n : Nat} (den_pos : 0 < den) (bound : (num : ℚ) / den ≤ n)
    : roundDiv num den ≤ n := by
  calc roundDiv num den ≤ roundDiv (n * 1) 1 :=
        roundDiv_le_roundDiv den_pos Nat.one_pos (by simpa using bound)
    _ = n := roundDiv_exact n Nat.one_pos

theorem le_roundDiv_of_le {num den n : Nat} (den_pos : 0 < den) (bound : n ≤ (num : ℚ) / den)
    : n ≤ roundDiv num den := by
  calc n = roundDiv (n * 1) 1 := (roundDiv_exact n Nat.one_pos).symm
    _ ≤ roundDiv num den := roundDiv_le_roundDiv Nat.one_pos den_pos (by simpa using bound)

namespace Double

-----------------------------------------------------------------------------------------
-- Significands at their scale
-----------------------------------------------------------------------------------------

variable {num den num' den' : Nat}

theorem quotient_pos (num_pos : 0 < num) (den_pos : 0 < den) : (0 : ℚ) < (num : ℚ) / den :=
  div_pos (by exact_mod_cast num_pos) (by exact_mod_cast den_pos)

/-- A quotient is less than fifty-three bits at its scale. -/
theorem quotient_scaled_lt (num_pos : 0 < num) (den_pos : 0 < den)
    : (num : ℚ) / den * 2 ^ ((1074 : Int) - scaleOf num den) < 2 ^ 53 := by
  have bound := Int.lt_zpow_succ_log_self (R := ℚ) (b := 2) (by decide) ((num : ℚ) / den)
  have scale := scaleOf_eq num_pos den_pos
  calc (num : ℚ) / den * 2 ^ ((1074 : Int) - scaleOf num den)
      < 2 ^ (Int.log 2 ((num : ℚ) / den) + 1) * 2 ^ ((1074 : Int) - scaleOf num den) := by
        gcongr
        exact_mod_cast bound
    _ = 2 ^ (Int.log 2 ((num : ℚ) / den) + 1 + ((1074 : Int) - scaleOf num den)) :=
        (zpow_add₀ (by norm_num) _ _).symm
    _ ≤ 2 ^ (53 : Int) := zpow_le_zpow_right₀ (by norm_num) (by omega)
    _ = 2 ^ 53 := by norm_num

/-- Above the least scale a quotient is at least fifty-two bits. -/
theorem le_quotient_scaled (num_pos : 0 < num) (den_pos : 0 < den) (above : 0 < scaleOf num den)
    : (2 : ℚ) ^ 52 ≤ (num : ℚ) / den * 2 ^ ((1074 : Int) - scaleOf num den) := by
  have bound :=
    Int.zpow_log_le_self (R := ℚ) (b := 2) (by decide) (quotient_pos num_pos den_pos)
  have scale := scaleOf_eq num_pos den_pos
  calc (2 : ℚ) ^ 52 = 2 ^ (52 : Int) := by norm_num
    _ = 2 ^ (Int.log 2 ((num : ℚ) / den) + ((1074 : Int) - scaleOf num den)) := by
        congr 1
        omega
    _ = 2 ^ Int.log 2 ((num : ℚ) / den) * 2 ^ ((1074 : Int) - scaleOf num den) :=
        zpow_add₀ (by norm_num) _ _
    _ ≤ (num : ℚ) / den * 2 ^ ((1074 : Int) - scaleOf num den) := by
        gcongr
        exact_mod_cast bound

/-- A rounded quotient is its scale and the rounded quotient at this scale. -/
theorem exists_roundMagnitude_eq (num_pos : 0 < num) (den_pos : 0 < den)
    : ∃ a b : Nat,
        0 < b
        ∧ (a : ℚ) / b = (num : ℚ) / den * 2 ^ ((1074 : Int) - scaleOf num den)
        ∧ roundMagnitude num den
          = min (scaleOf num den * 2 ^ 52 + roundDiv a b) infiniteMagnitude := by
  by_cases small : scaleOf num den ≤ 1074
  · obtain ⟨k, places⟩ : ∃ k, 1074 - scaleOf num den = k := ⟨_, rfl⟩
    refine ⟨num * 2 ^ k, den, den_pos, ?_, ?_⟩
    · have same : (1074 : Int) - scaleOf num den = k := by omega
      rw [same, zpow_natCast]
      push_cast
      ring
    · simp only [roundMagnitude, num_pos.ne', small, if_false, if_true, Nat.pow_eq, places]
  · obtain ⟨k, places⟩ : ∃ k, scaleOf num den - 1074 = k := ⟨_, rfl⟩
    refine ⟨num, den * 2 ^ k, Nat.mul_pos den_pos (Nat.two_pow_pos k), ?_, ?_⟩
    · have same : (1074 : Int) - scaleOf num den = -k := by omega
      rw [same, zpow_neg, zpow_natCast]
      push_cast
      rw [div_mul_eq_div_div, div_eq_mul_inv _ ((2 : ℚ) ^ k)]
    · simp only [roundMagnitude, num_pos.ne', small, if_false, Nat.pow_eq, places]

/-- Scales grow with quotients. -/
theorem scaleOf_le_scaleOf (num_pos : 0 < num) (den_pos : 0 < den) (num_pos' : 0 < num')
    (den_pos' : 0 < den') (order : (num : ℚ) / den ≤ num' / den')
    : scaleOf num den ≤ scaleOf num' den' := by
  have logs : Int.log 2 ((num : ℚ) / den) ≤ Int.log 2 ((num' : ℚ) / den') :=
    Int.log_mono_right (quotient_pos num_pos den_pos) order
  rw [scaleOf_eq num_pos den_pos, scaleOf_eq num_pos' den_pos']
  omega

/-- Rounding keeps order: at one scale the significands do, and from one scale to the next one the
step is at least as great as the difference of significands can be.
-/
theorem roundMagnitude_mono (den_pos : 0 < den) (den_pos' : 0 < den')
    (order : (num : ℚ) / den ≤ num' / den')
    : roundMagnitude num den ≤ roundMagnitude num' den' := by
  rcases Nat.eq_zero_or_pos num with rfl | num_pos
  · simp [roundMagnitude]
  have num_pos' : 0 < num' := by
    rcases Nat.eq_zero_or_pos num' with rfl | positive
    · have positive := quotient_pos num_pos den_pos
      simp only [Nat.cast_zero, zero_div] at order
      exact absurd positive (not_lt.mpr order)
    · exact positive
  obtain ⟨a, b, b_pos, quotient, rounded⟩ := exists_roundMagnitude_eq num_pos den_pos
  obtain ⟨a', b', b_pos', quotient', rounded'⟩ := exists_roundMagnitude_eq num_pos' den_pos'
  rw [rounded, rounded']
  refine min_le_min_right _ ?_
  rcases (scaleOf_le_scaleOf num_pos den_pos num_pos' den_pos' order).lt_or_eq with less | same
  · have high : roundDiv a b ≤ 2 ^ 53 := by
      refine roundDiv_le_of_le b_pos ?_
      rw [quotient]
      exact_mod_cast (quotient_scaled_lt num_pos den_pos).le
    have low : 2 ^ 52 ≤ roundDiv a' b' := by
      refine le_roundDiv_of_le b_pos' ?_
      rw [quotient']
      exact_mod_cast le_quotient_scaled num_pos' den_pos' (by omega)
    omega
  · have significands : roundDiv a b ≤ roundDiv a' b' := by
      refine roundDiv_le_roundDiv b_pos b_pos' ?_
      rw [quotient, quotient', same]
      gcongr
    omega

-----------------------------------------------------------------------------------------
-- Whole numbers
-----------------------------------------------------------------------------------------

theorem scaleOf_one {n : Nat} (positive : 0 < n) : scaleOf n 1 = n.log2 + 1022 := by
  have low := Nat.log2_self_le positive.ne'
  have one : Nat.log2 1 = 0 := by decide
  simp only [scaleOf, one, Nat.pow_eq, Nat.cast_zero, sub_zero, Nat.cast_nonneg, if_true,
    Int.toNat_natCast, Nat.one_mul, Nat.not_lt.mpr low, if_false]
  omega

/-- Shifted to the left until it has one bit more than `places`, a number lies between two powers. -/
theorem shifted_bounds {n places : Nat} (positive : 0 < n) (room : n.log2 ≤ places)
    : 2 ^ places ≤ n * 2 ^ (places - n.log2) ∧ n * 2 ^ (places - n.log2) < 2 ^ (places + 1) := by
  have low := Nat.log2_self_le positive.ne'
  have high := Nat.lt_log2_self (n := n)
  constructor
  · calc 2 ^ places = 2 ^ n.log2 * 2 ^ (places - n.log2) := by
          rw [← Nat.pow_add, Nat.add_sub_cancel' room]
      _ ≤ n * 2 ^ (places - n.log2) := Nat.mul_le_mul_right _ low
  · calc n * 2 ^ (places - n.log2) < 2 ^ (n.log2 + 1) * 2 ^ (places - n.log2) :=
          Nat.mul_lt_mul_of_pos_right high (Nat.two_pow_pos _)
      _ = 2 ^ (places + 1) := by
          rw [← Nat.pow_add, show n.log2 + 1 + (places - n.log2) = places + 1 by omega]

theorem log2_le_of_le {n : Nat} (positive : 0 < n) (bound : n ≤ 2 ^ 53) : n.log2 ≤ 53 :=
  Nat.le_of_lt_succ ((Nat.log2_lt positive.ne').mpr (by omega))

/-- A whole number of at most fifty-three bits, or the next one, is rounded to itself: its leading bit
is in the exponent, and all others are in the fraction. This is said of twice the magnitude, as the
next number has one bit more than there is room for.
-/
theorem two_mul_roundMagnitude {n : Nat} (positive : 0 < n) (bound : n ≤ 2 ^ 53)
    : 2 * roundMagnitude n 1 = (n.log2 + 1022) * 2 ^ 53 + n * 2 ^ (53 - n.log2) := by
  rcases (log2_le_of_le positive bound).lt_or_eq with less | last
  · have room : n.log2 ≤ 52 := Nat.le_of_lt_succ less
    have rounded
        : roundMagnitude n 1 = (n.log2 + 1022) * 2 ^ 52 + n * 2 ^ (52 - n.log2) := by
      have significand := (shifted_bounds positive room).2
      have exact := roundDiv_exact (n * 2 ^ (52 - n.log2)) Nat.one_pos
      have small : n.log2 + 1022 ≤ 1074 := by omega
      have places : 1074 - (n.log2 + 1022) = 52 - n.log2 := by omega
      have largest : infiniteMagnitude = 2047 * 2 ^ 52 := rfl
      rw [Nat.mul_one] at exact
      unfold roundMagnitude
      dsimp only
      rw [if_neg positive.ne', scaleOf_one positive, if_pos small, places, Nat.pow_eq, Nat.pow_eq,
        exact, largest]
      exact Nat.min_eq_left (by omega)
    rw [rounded, show 53 - n.log2 = (52 - n.log2) + 1 by omega, Nat.pow_succ]
    ring
  · have low := Nat.log2_self_le positive.ne'
    rw [last] at low
    obtain rfl : n = 2 ^ 53 := Nat.le_antisymm bound low
    decide +kernel

/-- No two whole numbers of at most fifty-three bits are rounded to the same one: they differ in their
lengths or, at the same length, in their bits.
-/
theorem roundMagnitude_lt_of_lt {m n : Nat} (order : m < n) (bound : n ≤ 2 ^ 53)
    : roundMagnitude m 1 < roundMagnitude n 1 := by
  have positive := Nat.zero_lt_of_lt order
  have exact := two_mul_roundMagnitude positive bound
  rcases Nat.eq_zero_or_pos m with rfl | positive'
  · have zero : roundMagnitude 0 1 = 0 := rfl
    omega
  have bound' := order.le.trans bound
  have exact' := two_mul_roundMagnitude positive' bound'
  have lengths : m.log2 ≤ n.log2 := by
    rw [Nat.log2_eq_log_two, Nat.log2_eq_log_two]
    exact Nat.log_mono_right order.le
  rcases lengths.lt_or_eq with shorter | same
  · have high := (shifted_bounds positive' (log2_le_of_le positive' bound')).2
    have low := (shifted_bounds positive (log2_le_of_le positive bound)).1
    omega
  · have shifted : m * 2 ^ (53 - n.log2) < n * 2 ^ (53 - n.log2) :=
      Nat.mul_lt_mul_of_pos_right order (Nat.two_pow_pos _)
    rw [same] at exact'
    omega

-----------------------------------------------------------------------------------------
-- Integers
-----------------------------------------------------------------------------------------

variable {m n : Int} {x y : Double}

/-- The place of a rounded integer on the line of all numbers is that of its rounded absolute value,
on the side that its sign says.
-/
theorem key_of_ofInt? (rounded : ofInt? n = some x)
    : x.key = if n < 0 then -(roundMagnitude n.natAbs 1 : Int) else roundMagnitude n.natAbs 1 := by
  unfold ofInt? at rounded
  dsimp only at rounded
  split at rounded
  · obtain rfl := Option.some.inj rounded
    simp [key, ofRatio]
  · contradiction

theorem roundMagnitude_le_of_le {m n : Nat} (order : m ≤ n)
    : roundMagnitude m 1 ≤ roundMagnitude n 1 :=
  roundMagnitude_mono Nat.one_pos Nat.one_pos (by simpa using order)

/-- Rounding integers keeps order, by cases on their signs. -/
theorem key_le_key (rounded : ofInt? m = some x) (rounded' : ofInt? n = some y) (order : m ≤ n)
    : x.key ≤ y.key := by
  rw [key_of_ofInt? rounded, key_of_ofInt? rounded']
  split
  · next negative =>
    split
    · have magnitudes : roundMagnitude n.natAbs 1 ≤ roundMagnitude m.natAbs 1 :=
        roundMagnitude_le_of_le (by omega)
      omega
    · omega
  · next positive =>
    have magnitudes : roundMagnitude m.natAbs 1 ≤ roundMagnitude n.natAbs 1 :=
      roundMagnitude_le_of_le (by omega)
    rw [if_neg (by omega)]
    exact_mod_cast magnitudes

/-- Integers of at most fifty-three bits keep apart, by cases on their signs. -/
theorem key_lt_key (rounded : ofInt? m = some x) (rounded' : ofInt? n = some y)
    (small : m.natAbs ≤ 2 ^ 53) (small' : n.natAbs ≤ 2 ^ 53) (order : m < n)
    : x.key < y.key := by
  rw [key_of_ofInt? rounded, key_of_ofInt? rounded']
  split
  · next negative =>
    split
    · have magnitudes : roundMagnitude n.natAbs 1 < roundMagnitude m.natAbs 1 :=
        roundMagnitude_lt_of_lt (by omega) small
      omega
    · have magnitude : roundMagnitude 0 1 < roundMagnitude m.natAbs 1 :=
        roundMagnitude_lt_of_lt (by omega) small
      omega
  · next positive =>
    have magnitudes : roundMagnitude m.natAbs 1 < roundMagnitude n.natAbs 1 :=
      roundMagnitude_lt_of_lt (by omega) small'
    rw [if_neg (by omega)]
    exact_mod_cast magnitudes

/-- The first integer beyond is not kept apart. -/
example : ofInt? (2 ^ 53 + 1) = ofInt? (2 ^ 53) := by decide +kernel

/-- The integer is as large as the middle between the largest double and the next power of two. -/
def Beyond (n : Int) : Prop := 2 ^ 1024 - 2 ^ 970 ≤ n.natAbs

/-- An integer has no nearest double exactly if it lies beyond them: in the middle the rounded magnitude
is that of the infinities, one integer before it is not, and rounding keeps order.
-/
theorem ofInt?_eq_none_iff : ofInt? n = none ↔ Beyond n := by
  have middle : roundMagnitude (2 ^ 1024 - 2 ^ 970) 1 = infiniteMagnitude := by decide +kernel
  have before : roundMagnitude (2 ^ 1024 - 2 ^ 970 - 1) 1 < infiniteMagnitude := by decide +kernel
  have beyond : ofInt? n = none ↔ ¬ roundMagnitude n.natAbs 1 < infiniteMagnitude := by
    unfold ofInt?
    dsimp only
    split
    · next finite =>
      have below : roundMagnitude n.natAbs 1 < infiniteMagnitude := of_decide_eq_true finite
      simp [below]
    · next infinite =>
      have above : ¬ roundMagnitude n.natAbs 1 < infiniteMagnitude :=
        fun below => infinite (decide_eq_true below)
      simp only [above, not_false_eq_true]
  rw [beyond]
  constructor
  · intro infinite
    by_contra small
    have order : n.natAbs ≤ 2 ^ 1024 - 2 ^ 970 - 1 := Nat.le_sub_one_of_lt (Nat.lt_of_not_le small)
    exact infinite (Nat.lt_of_le_of_lt (roundMagnitude_le_of_le order) before)
  · intro large finite
    have order := roundMagnitude_le_of_le large
    rw [middle] at order
    exact absurd finite (Nat.not_lt.mpr order)

end Double

end FeatureFlags
