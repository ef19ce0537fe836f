import FeatureFlags.Proofs.Json.Numerals

/-! Numbers in JSON text are read back as they were written, with their sign.
-/

namespace FeatureFlags

namespace Json

/-- What is read as a number begins with a digit. -/
theorem exists_digit_of_unsigned? {negative : Bool} {s : List Char} {found : Step (Datum × List Char)}
    (read : unsigned? negative s = some found)
    : ∃ c rest, s = c :: rest ∧ c.isDigit = true := by
  cases s with
  | nil => simp [unsigned?, wholePart] at read
  | cons c rest =>
      refine ⟨c, rest, rfl, ?_⟩
      by_contra other
      have missing : wholePart (c :: rest) = none := by
        unfold wholePart
        split
        · next same =>
            obtain ⟨rfl, -⟩ := List.cons.inj same
            exact absurd rfl other
        · next same =>
            obtain ⟨rfl, -⟩ := List.cons.inj same
            exact if_neg other
        · rfl
      simp [unsigned?, missing] at read

/-- A digit begins no constant. -/
theorem scalar?_of_unsigned? {s : List Char} {found : Step (Datum × List Char)}
    (read : unsigned? false s = some found)
    : scalar? s = some found := by
  obtain ⟨c, rest, rfl, digit⟩ := exists_digit_of_unsigned? read
  unfold scalar?
  split
  case h_8 => exact read
  all_goals
    next same =>
      obtain ⟨rfl, -⟩ := List.cons.inj same
      exact absurd digit (by decide)

theorem scalar?_of_negated {s : List Char} {found : Step (Datum × List Char)}
    (read : unsigned? true s = some found)
    : scalar? ('-' :: s) = some found := by
  obtain ⟨c, rest, rfl, digit⟩ := exists_digit_of_unsigned? read
  unfold scalar?
  split
  case h_6 =>
    next same =>
      simp only [List.cons.injEq] at same
      obtain ⟨-, rfl, -⟩ := same
      exact absurd digit (by decide)
  case h_7 =>
    next same =>
      obtain ⟨-, rfl⟩ := List.cons.inj same
      exact read
  case h_8 =>
    next other => exact absurd rfl (other (c :: rest))
  all_goals
    next same => exact absurd (List.cons.inj same).1 (by decide)

/-- A sign goes in front of a number that is read without it. -/
theorem scalar?_signed {text rest : List Char} {x : Bool → Datum}
    (read : ∀ negative, unsigned? negative (text ++ rest) = some (.ok (x negative, rest)))
    (negative : Bool)
    : scalar? ((if negative then "-" else "").toList ++ text ++ rest)
      = some (.ok (x negative, rest)) := by
  cases negative with
  | false => simpa using scalar?_of_unsigned? (read false)
  | true => simpa using scalar?_of_negated (read true)

/-- The digits of a natural number are the whole part of a number. -/
theorem Whole.of_nat (n : Nat) : Whole (Nat.toDigits 10 n) := by
  rcases Nat.eq_zero_or_pos n with rfl | positive
  · rw [Nat.toDigits_zero]
    exact ⟨by simp, by simp, fun _ => rfl⟩
  · have whole := @Whole.of_digits n positive [] (by simp)
    rwa [List.append_nil] at whole

theorem unsigned?_zero {rest : List Char} (ends : EndsNumber rest) (negative : Bool)
    : unsigned? negative ("0.0".toList ++ rest)
      = some (.ok (.double ⟨negative, 0, by decide⟩, rest)) := by
  have read := unsigned?_fraction (Whole.of_nat 0) (List.cons_ne_nil '0' []) (by simp) ends negative
  rw [Nat.toDigits_zero] at read
  simpa [Digits.value, Double.ofDecimal] using read

/-- The digits of a natural number are read as it, with the sign, if they are not too many. -/
theorem unsigned?_nat {n : Nat} (short : (Nat.toDigits 10 n).length ≤ Datum.mostDigits)
    {rest : List Char} (ends : EndsNumber rest) (negative : Bool)
    : unsigned? negative (Nat.toDigits 10 n ++ rest)
      = some (.ok (.int (if negative then -(n : Int) else n), rest)) := by
  rw [unsigned?_integer (Whole.of_nat n) ends negative, Datum.ofDigits, if_neg (by omega),
    Digits.value_toDigits]
  rfl

/-- A written integer is read back. -/
theorem scalar?_int {n : Int} (short : (Datum.int n).isOverlong = false) {rest : List Char}
    (ends : EndsNumber rest)
    : scalar? ((toString n).toList ++ rest) = some (.ok (.int n, rest)) := by
  have read := scalar?_signed
    (fun negative => unsigned?_nat (Datum.length_toDigits_le short) ends negative) (decide (n < 0))
  have text : (toString n).toList
      = (if decide (n < 0) then "-" else "").toList ++ Nat.toDigits 10 n.natAbs := by
    rw [Int.toString_eq_repr, Int.repr_eq_if]
    by_cases negative : n < 0
    · have sign : ¬ 0 ≤ n := by omega
      have size : (-n).toNat = n.natAbs := by omega
      simp [negative, sign, size]
    · have sign : 0 ≤ n := by omega
      have size : n.toNat = n.natAbs := by omega
      simp [negative, sign, size]
  have value : (if decide (n < 0) then -(n.natAbs : Int) else n.natAbs) = n := by
    by_cases negative : n < 0
    · rw [decide_eq_true negative, if_pos rfl]
      omega
    · rw [decide_eq_false negative, if_neg Bool.false_ne_true]
      omega
  rw [text, read, value]

/-- A written number is read back, infinities and both zeros included. -/
theorem scalar?_double {x : Double} (number : x.isNaN = false) {rest : List Char}
    (ends : EndsNumber rest)
    : scalar? ((numberStyle.text x).toList ++ rest) = some (.ok (.double x, rest)) := by
  unfold Double.Style.text
  rw [number, if_neg Bool.false_ne_true]
  dsimp only
  split
  · next infinite =>
      have same : x = .infinity x.negative := by
        obtain ⟨negative, magnitude, bound⟩ := x
        simpa [Double.isInfinite, Double.infinity] using infinite
      rw [same]
      cases x.negative <;> simp [numberStyle, scalar?, Double.infinity]
  · next bounded =>
      split
      · next zero =>
          have same : x = ⟨x.negative, 0, by decide⟩ := by
            obtain ⟨negative, magnitude, bound⟩ := x
            simpa [Double.isZero] using zero
          rw [same, String.toList_append]
          exact scalar?_signed (unsigned?_zero ends) x.negative
      · next nonzero =>
          have finite : x.isFinite = true := by
            simp only [Double.isNaN, Double.isInfinite, Double.isFinite, decide_eq_false_iff_not,
              beq_iff_eq, decide_eq_true_eq] at number bounded ⊢
            omega
          have shortest := Double.readsBack_shortest finite (by simpa using nonzero)
          have positive := Double.digits_pos_of_readsBack (by simpa using nonzero) shortest
          have read := scalar?_signed
            (fun negative => unsigned?_decimal numberStyle positive ends negative) x.negative
          rw [Double.readsBack, beq_iff_eq] at shortest
          rw [String.toList_append, read, shortest]

end Json

end FeatureFlags
