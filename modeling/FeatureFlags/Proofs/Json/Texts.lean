import FeatureFlags.Json.Reader
import FeatureFlags.Json.Writer
import FeatureFlags.Proofs.Outcome

/-! Texts in JSON are read back as they were written. Every character is written as itself, as an
escape of one letter, as one code unit or as a pair of code units, and the reader undoes one such
form at a time.
-/

namespace FeatureFlags.Json

-----------------------------------------------------------------------------------------
-- Digits to base sixteen
-----------------------------------------------------------------------------------------

theorem hexDigit?_digitChar {d : Nat} (bound : d < 16) : hexDigit? d.digitChar = some d := by
  have all : ∀ d < 16, hexDigit? d.digitChar = some d := by decide
  exact all d bound

/-- Digits are read back, by induction on the number without its last digit. -/
theorem hexValue?_toDigits (n : Nat) : hexValue? (Nat.toDigits 16 n) = some n := by
  unfold hexValue?
  induction n using Nat.strongRecOn with
  | ind n ih =>
      by_cases small : n < 16
      · rw [Nat.toDigits_of_lt_base small]
        simp [hexDigit?_digitChar small]
      · have split := Nat.toDigits_append_toDigits (b := 16) (n := n / 16) (d := n % 16)
          (by decide) (by omega) (by omega)
        have last : n % 16 < 16 := by omega
        rw [Nat.div_add_mod] at split
        rw [← split, List.foldlM_append, ih (n / 16) (by omega), Nat.toDigits_of_lt_base last]
        simp [hexDigit?_digitChar last, Nat.div_add_mod]

/-- Zeros in front do not count, by induction on their number. -/
theorem hexValue?_zeros (zeros : Nat) (digits : List Char)
    : hexValue? (List.replicate zeros '0' ++ digits) = hexValue? digits := by
  induction zeros with
  | zero => rfl
  | succ zeros ih =>
      rw [List.replicate_succ, List.cons_append, ← ih]
      rfl

/-- A code unit is written with four digits, which are read back. -/
theorem exists_hexadecimal {n : Nat} (bound : n < 0x10000)
    : ∃ a b c d, Quoted.hexadecimal 4 n = [a, b, c, d] ∧ hexValue? [a, b, c, d] = some n := by
  have short : (Nat.toDigits 16 n).length ≤ 4 :=
    (Nat.length_toDigits_le_iff (by decide) (by decide)).mpr bound
  have length : (Quoted.hexadecimal 4 n).length = 4 := by
    simp only [Quoted.hexadecimal, List.length_append, List.length_replicate]
    omega
  have value : hexValue? (Quoted.hexadecimal 4 n) = some n :=
    (hexValue?_zeros _ _).trans (hexValue?_toDigits n)
  match same : Quoted.hexadecimal 4 n, length with
  | [a, b, c, d], _ => exact ⟨a, b, c, d, rfl, same ▸ value⟩

-----------------------------------------------------------------------------------------
-- Characters
-----------------------------------------------------------------------------------------

theorem charOfCode_toNat (remaining : Nat) (c : Char) : charOfCode remaining c.toNat = .ok c := by
  have valid : c.toNat.isValidChar := c.valid
  rw [charOfCode, if_pos valid, Char.ofNat_toNat]

variable {opened : Nat} {tail chars left : List Char}

/-- An escape of one letter is read as its character. -/
theorem textBody_short {letter c : Char} (short : shortEscape? letter = some c)
    (read : textBody opened tail = .ok (chars, left))
    : textBody opened ('\\' :: letter :: tail) = .ok (c :: chars, left) := by
  have other : letter ≠ 'u' := by
    rintro rfl
    simp [shortEscape?] at short
  rw [textBody]
  · simp only [short, read]
    rfl
  all_goals simp [other]

/-- A character that needs no escape is read as itself. -/
theorem textBody_plain {c : Char} (quote : c ≠ '"') (slash : c ≠ '\\') (printable : 0x20 ≤ c.toNat)
    (read : textBody opened tail = .ok (chars, left))
    : textBody opened (c :: tail) = .ok (c :: chars, left) := by
  have visible : ¬ c.toNat < 0x20 := by omega
  rw [textBody]
  · simp only [visible, if_false, read]
    rfl
  all_goals simp [quote, slash]

/-- A code unit that belongs to no pair is read as its character, whatever follows. -/
theorem textBody_unit {a b c d char : Char} {n : Nat} (digits : hexValue? [a, b, c, d] = some n)
    (single : isHighSurrogate n = false) (stands : ∀ remaining, charOfCode remaining n = .ok char) (more : tail ≠ [])
    (read : textBody opened tail = .ok (chars, left))
    : textBody opened ('\\' :: 'u' :: a :: b :: c :: d :: tail) = .ok (char :: chars, left) := by
  obtain ⟨next, rest, rfl⟩ := List.exists_cons_of_ne_nil more
  by_cases escape
      : ∃ e f g h next' rest', next = '\\' ∧ rest = 'u' :: e :: f :: g :: h :: next' :: rest'
  · obtain ⟨e, f, g, h, next', rest', rfl, rfl⟩ := escape
    rw [textBody.eq_5 _ _ _ _ _ _ _ _ _ _ _ _ digits, single, if_neg Bool.false_ne_true, read,
      stands]
    rfl
  · rw [textBody.eq_6 _ _ _ _ _ _ _ _ (fun e f g h next' rest' slash same =>
      escape ⟨e, f, g, h, next', rest', slash, same⟩) digits, read, stands]
    rfl

/-- A pair of code units is read as the character that they stand for. -/
theorem textBody_pair {a b c d e f g h char : Char} {high low : Nat}
    (highDigits : hexValue? [a, b, c, d] = some high) (isHigh : isHighSurrogate high = true)
    (lowDigits : hexValue? [e, f, g, h] = some low) (isLow : isLowSurrogate low = true)
    (stands : ∀ remaining, charOfCode remaining (joinSurrogates high low) = .ok char) (more : tail ≠ [])
    (read : textBody opened tail = .ok (chars, left))
    : textBody opened
        ('\\' :: 'u' :: a :: b :: c :: d :: '\\' :: 'u' :: e :: f :: g :: h :: tail)
      = .ok (char :: chars, left) := by
  obtain ⟨next, rest, rfl⟩ := List.exists_cons_of_ne_nil more
  rw [textBody.eq_5 _ _ _ _ _ _ _ _ _ _ _ _ highDigits, isHigh, if_pos rfl, lowDigits]
  dsimp only
  rw [isLow, if_pos rfl, read, stands]
  rfl

/-- The form in which a character of ASCII text is written. -/
inductive Written (c : Char) : List Char → Prop where
  | short {letter : Char} (stands : shortEscape? letter = some c) : Written c ['\\', letter]
  | plain (quote : c ≠ '"') (slash : c ≠ '\\') (printable : 0x20 ≤ c.toNat) : Written c [c]
  | unit (bound : c.toNat < 0x10000) : Written c (codeEscape c.toNat)
  | pair (high : 0x10000 ≤ c.toNat)
    : Written c
        (codeEscape (0xD800 + (c.toNat - 0x10000) / 0x400)
          ++ codeEscape (0xDC00 + (c.toNat - 0x10000) % 0x400))

theorem written_escape (c : Char) : Written c (escape true c) := by
  unfold escape
  repeat
    split
    · next same =>
        subst same
        exact .short rfl
  next quote slash _ _ _ _ _ =>
    split
    · next control => exact .unit (by omega)
    split
    · next visible => exact .plain quote slash (by omega)
    split
    · next unit => exact .unit unit
    · next large => exact .pair (by omega)

/-- Characters are no surrogates, and there is an end to them. -/
theorem toNat_range (c : Char)
    : c.toNat < 0xD800 ∨ (0xDFFF < c.toNat ∧ c.toNat < 0x110000) := by
  have valid : c.toNat.isValidChar := c.valid
  unfold Nat.isValidChar at valid
  omega

theorem isHighSurrogate_toNat (c : Char) : isHighSurrogate c.toNat = false := by
  have range := toNat_range c
  unfold isHighSurrogate
  simp only [Bool.and_eq_false_iff, decide_eq_false_iff_not]
  omega

/-- Whatever form a character is written in, it is read back. -/
theorem textBody_written {c : Char} {form : List Char} (written : Written c form) (more : tail ≠ [])
    (read : textBody opened tail = .ok (chars, left))
    : textBody opened (form ++ tail) = .ok (c :: chars, left) := by
  cases written with
  | short stands => exact textBody_short stands read
  | plain quote slash printable => exact textBody_plain quote slash printable read
  | unit bound =>
      obtain ⟨a, b, c', d, digits, value⟩ := exists_hexadecimal bound
      rw [codeEscape, digits]
      exact textBody_unit value (isHighSurrogate_toNat c) (fun remaining => charOfCode_toNat remaining c) more
        read
  | pair high =>
      have range := toNat_range c
      obtain ⟨a, b, c', d, highDigits, highValue⟩ :=
        exists_hexadecimal (n := 0xD800 + (c.toNat - 0x10000) / 0x400) (by omega)
      obtain ⟨e, f, g, h, lowDigits, lowValue⟩ :=
        exists_hexadecimal (n := 0xDC00 + (c.toNat - 0x10000) % 0x400) (by omega)
      have joined : joinSurrogates (0xD800 + (c.toNat - 0x10000) / 0x400)
          (0xDC00 + (c.toNat - 0x10000) % 0x400) = c.toNat := by
        unfold joinSurrogates
        omega
      rw [codeEscape, codeEscape, highDigits, lowDigits]
      exact textBody_pair highValue (by simp [isHighSurrogate]; omega) lowValue
        (by simp [isLowSurrogate]; omega)
        (fun remaining =>
          (congrArg (charOfCode remaining) joined).trans (charOfCode_toNat remaining c))
        more read

/-- A written text is read back up to its closing quote, by list induction. -/
theorem textBody_quoted (opened : Nat) (text rest : List Char)
    : textBody opened (text.flatMap (escape true) ++ '"' :: rest) = .ok (text, rest) := by
  induction text with
  | nil => rfl
  | cons c more ih =>
      rw [List.flatMap_cons, List.append_assoc]
      exact textBody_written (written_escape c) (by simp) ih

end FeatureFlags.Json
