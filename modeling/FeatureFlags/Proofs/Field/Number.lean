import FeatureFlags.Field.Number
import FeatureFlags.Proofs.Datum.Digits
import FeatureFlags.Proofs.Field.Checked

/-! How large the integers of documents are. One that is read from other data than an integer is bounded:
by the number of digits in a text, or by the size up to which doubles are taken for integers.
-/

namespace FeatureFlags.Field

/-- Between the underscores of a number there are only digits, by induction over its text. -/
theorem digits_of_underscored? {s digits : List Char} (found : underscored? s = some digits)
    : (∀ c ∈ digits, c.isDigit = true) ∧ digits.length ≤ s.length := by
  fun_induction underscored? s generalizing digits with
  | case2 c digit =>
      obtain rfl := Option.some.inj found
      simpa using digit
  | case4 c rest digit ih =>
      obtain ⟨more, later, rfl⟩ := Option.map_eq_some_iff.mp found
      obtain ⟨allDigits, short⟩ := ih later
      refine ⟨List.forall_mem_cons.mpr ⟨digit, allDigits⟩, ?_⟩
      simp only [List.length_cons]
      omega
  | case6 c rest _ _ digit ih =>
      obtain ⟨more, later, rfl⟩ := Option.map_eq_some_iff.mp found
      obtain ⟨allDigits, short⟩ := ih later
      exact ⟨List.forall_mem_cons.mpr ⟨digit, allDigits⟩, Nat.succ_le_succ short⟩
  | _ => contradiction

theorem length_le_of_withoutZeroFraction? {s digits : List Char}
    (found : withoutZeroFraction? s = some digits)
    : digits.length ≤ s.length := by
  unfold withoutZeroFraction? at found
  split at found
  · exact Option.some.inj found ▸ Nat.le_refl _
  · split at found
    · exact Option.some.inj found ▸ (List.takeWhile_sublist _).length_le
    · contradiction

/-- A text does not stand for an integer with more digits than it has characters. -/
theorem natAbs_lt_of_integerOfText? {s : List Char} {n : Int} (found : integerOfText? s = some n)
    : n.natAbs < 10 ^ s.length := by
  unfold integerOfText? at found
  split at found
  next negative size signed =>
    have unsigned : size.length ≤ s.length := by
      split at signed <;>
        obtain ⟨-, rfl⟩ := Prod.mk.inj signed <;>
        simp
    obtain ⟨whole, cut, found⟩ := Option.bind_eq_some_iff.mp found
    obtain ⟨digits, among, same⟩ := Option.bind_eq_some_iff.mp found
    obtain ⟨allDigits, fewer⟩ := digits_of_underscored? among
    have cutShort := length_le_of_withoutZeroFraction? cut
    have bounded : Digits.value digits < 10 ^ s.length :=
      Nat.lt_of_lt_of_le (Digits.value_lt allDigits)
        (Nat.pow_le_pow_right (by decide) (by omega))
    obtain rfl := Option.some.inj same
    split <;> simpa using bounded

/-- An integer that is read from data without too many digits has not too many digits, by cases on the
data.
-/
theorem natAbs_lt_of_integer {x : Datum} (short : x.isOverlong = false) {n : Int}
    (found : integer x = .ok n)
    : n.natAbs < 10 ^ Datum.mostDigits := by
  cases x with
  | int m =>
      obtain rfl := Checked.ok.inj found
      exact Datum.isOverlong_int_eq_false_iff.mp short
  | bool b =>
      obtain rfl := Checked.ok.inj found
      have bit : (if b then 1 else 0 : Int).natAbs < 10 ^ 1 := by cases b <;> decide
      exact Nat.lt_of_lt_of_le bit (Nat.pow_le_pow_right (by decide) (by decide))
  | text s =>
      simp only [integer, textInteger] at found
      split at found
      · contradiction
      · next few =>
          split at found
          · next m stands =>
              obtain rfl := Checked.ok.inj found
              exact Nat.lt_of_lt_of_le (natAbs_lt_of_integerOfText? stands)
                (Nat.pow_le_pow_right (by decide) (Nat.not_lt.mp few))
          · contradiction
  | double x =>
      simp only [integer, doubleInteger] at found
      split at found
      · contradiction
      · split at found
        · contradiction
        · split at found
          · contradiction
          · next small =>
              obtain rfl := Checked.ok.inj found
              have word : wordBound ≤ 10 ^ 19 := by decide
              exact Nat.lt_of_lt_of_le (Nat.not_le.mp small)
                (word.trans (Nat.pow_le_pow_right (by decide) (by decide)))
  | _ => contradiction

end FeatureFlags.Field
