import FeatureFlags.Json.Reader
import FeatureFlags.Json.Writer
import FeatureFlags.Proofs.Datum.Digits
import FeatureFlags.Proofs.Number.Shortest

/-! Numbers without a sign in JSON text: a whole part, maybe a fraction, maybe an exponent, and something
after it that continues none of them. Whatever the layout of a decimal, it is read back.
-/

namespace FeatureFlags

namespace Json

-----------------------------------------------------------------------------------------
-- Parts of a number
-----------------------------------------------------------------------------------------

/-- No digit comes next. -/
def NoDigit (rest : List Char) : Prop := ∀ c ∈ rest.head?, c.isDigit = false

/-- Nothing that continues a number comes next. -/
def EndsNumber (rest : List Char) : Prop :=
  ∀ c ∈ rest.head?, c.isDigit = false ∧ c ≠ '.' ∧ c ≠ 'e' ∧ c ≠ 'E'

theorem EndsNumber.noDigit {rest : List Char} (ends : EndsNumber rest) : NoDigit rest :=
  fun c next => (ends c next).1

/-- Digits in front of a point: zero, or some that do not begin with zero. -/
structure Whole (digits : List Char) : Prop where
  nonempty : digits ≠ []
  allDigits : ∀ c ∈ digits, c.isDigit = true
  leading : digits.head? = some '0' → digits = ['0']

/-- All digits are split off up to something that is none. -/
theorem spanDigits_append {digits rest : List Char} (allDigits : ∀ c ∈ digits, c.isDigit = true)
    (stop : NoDigit rest)
    : spanDigits (digits ++ rest) = (digits, rest) := by
  rw [spanDigits, List.takeWhile_append_of_pos allDigits, List.dropWhile_append_of_pos allDigits]
  cases rest with
  | nil => simp
  | cons c after =>
      have other : c.isDigit = false := stop c rfl
      simp [other]

theorem fractionPart_of_ends {rest : List Char} (ends : EndsNumber rest)
    : fractionPart rest = none := by
  unfold fractionPart
  split
  · exact absurd rfl (ends '.' rfl).2.1
  · rfl

theorem exponentPart_of_ends {rest : List Char} (ends : EndsNumber rest)
    : exponentPart rest = none := by
  cases rest with
  | nil => rfl
  | cons c after =>
      obtain ⟨-, -, small, capital⟩ := ends c rfl
      simp [exponentPart, small, capital]

theorem fractionPart_append {places rest : List Char} (nonempty : places ≠ [])
    (allDigits : ∀ c ∈ places, c.isDigit = true) (stop : NoDigit rest)
    : fractionPart ('.' :: (places ++ rest)) = some (places, rest) := by
  have spanned := spanDigits_append allDigits stop
  cases places with
  | nil => exact absurd rfl nonempty
  | cons d more =>
      have digit : d.isDigit = true := allDigits d (by simp)
      rw [List.cons_append] at spanned ⊢
      simp [fractionPart, digit, spanned]

theorem NoDigit.of_exponent (e : Int) (rest : List Char)
    : NoDigit ('e' :: ((Double.exponentText e).toList ++ rest)) := by
  intro c next
  obtain rfl : 'e' = c := by simpa using next
  rfl

/-- The digits of an exponent. -/
theorem exponentText_digits (n : Nat)
    : ∃ digits, (if (toString n).length < 2 then "0" ++ toString n else toString n).toList = digits
        ∧ digits ≠ []
        ∧ (∀ c ∈ digits, c.isDigit = true)
        ∧ Digits.value digits = n := by
  have text : (toString n).toList = Nat.toDigits 10 n := Nat.toList_repr
  refine ⟨_, rfl, ?_⟩
  split
  · rw [String.toList_append, text]
    refine ⟨by simp, ?_, ?_⟩
    · intro c member
      rcases List.mem_append.mp member with zero | digit
      · obtain rfl : c = '0' := by simpa using zero
        rfl
      · exact Digits.isDigit_toDigits digit
    · exact (Digits.value_zeros_append (Nat.toDigits 10 n) 1).trans (Digits.value_toDigits n)
  · rw [text]
    exact ⟨Nat.toDigits_ne_nil, fun c => Digits.isDigit_toDigits, Digits.value_toDigits n⟩

/-- A written exponent is read back. -/
theorem exponentPart_append (e : Int) {rest : List Char} (stop : NoDigit rest)
    : exponentPart ('e' :: ((Double.exponentText e).toList ++ rest)) = some (e, rest) := by
  obtain ⟨digits, text, nonempty, allDigits, value⟩ := exponentText_digits e.natAbs
  have spanned := spanDigits_append allDigits stop
  have written : (Double.exponentText e).toList
      = (if e < 0 then '-' else '+') :: digits := by
    rw [← text]
    unfold Double.exponentText
    by_cases negative : e < 0 <;> simp [negative]
  rw [written]
  by_cases negative : e < 0
  · simp [exponentPart, negative, spanned, nonempty, value, -Nat.cast_natAbs]
    omega
  · simp [exponentPart, negative, spanned, nonempty, value, -Nat.cast_natAbs]
    omega

-----------------------------------------------------------------------------------------
-- Numbers without their sign
-----------------------------------------------------------------------------------------

theorem wholePart_append {whole rest : List Char} (proper : Whole whole) (stop : NoDigit rest)
    : wholePart (whole ++ rest) = some (whole, rest) := by
  have spanned := spanDigits_append proper.allDigits stop
  obtain ⟨nonempty, allDigits, leading⟩ := proper
  cases whole with
  | nil => exact absurd rfl nonempty
  | cons c more =>
      have digit : c.isDigit = true := allDigits c (by simp)
      rw [List.cons_append] at spanned ⊢
      by_cases zero : c = '0'
      · subst zero
        obtain rfl : more = [] := by simpa using leading rfl
        rfl
      · simp [wholePart, digit, spanned]

/-- A number is read part by part. -/
theorem unsigned?_of_parts {whole rest places afterPlaces after : List Char}
    {fraction : Option (List Char × List Char)} {power : Option (Int × List Char)} {exponent : Int}
    (proper : Whole whole) (stop : NoDigit rest) (readFraction : fractionPart rest = fraction)
    (taken : fraction.getD ([], rest) = (places, afterPlaces))
    (readPower : exponentPart afterPlaces = power)
    (raised : power.getD (0, afterPlaces) = (exponent, after)) (negative : Bool)
    : unsigned? negative (whole ++ rest)
      = some (if fraction.isNone && power.isNone then
          (Datum.ofDigits negative whole).map fun n => (n, after)
        else
          .ok (.double (.ofDecimal negative (Digits.value (whole ++ places))
            (exponent - places.length)), after)) := by
  simp only [unsigned?, wholePart_append proper stop, Option.map_some, readFraction, taken,
    readPower, raised]

theorem unsigned?_integer {whole rest : List Char} (proper : Whole whole) (ends : EndsNumber rest)
    (negative : Bool)
    : unsigned? negative (whole ++ rest)
      = some ((Datum.ofDigits negative whole).map fun n => (n, rest)) :=
  unsigned?_of_parts proper ends.noDigit (fractionPart_of_ends ends) rfl
    (exponentPart_of_ends ends) rfl negative

theorem unsigned?_fraction {whole places rest : List Char} (proper : Whole whole)
    (nonempty : places ≠ []) (allDigits : ∀ c ∈ places, c.isDigit = true) (ends : EndsNumber rest)
    (negative : Bool)
    : unsigned? negative (whole ++ '.' :: (places ++ rest))
      = some (.ok (.double (.ofDecimal negative (Digits.value (whole ++ places)) (-places.length)),
          rest)) := by
  have point : NoDigit ('.' :: (places ++ rest)) := by
    intro c next
    obtain rfl : '.' = c := by simpa using next
    rfl
  rw [unsigned?_of_parts proper point (fractionPart_append nonempty allDigits ends.noDigit) rfl
    (exponentPart_of_ends ends) rfl negative]
  simp

theorem fractionPart_exponent (e : Int) (rest : List Char)
    : fractionPart ('e' :: ((Double.exponentText e).toList ++ rest)) = none := by
  simp [fractionPart]

/-- A digit, maybe a fraction, and an exponent. -/
theorem unsigned?_exponent {c : Char} (digit : c.isDigit = true) {places : List Char}
    (allDigits : ∀ c ∈ places, c.isDigit = true) (e : Int) {rest : List Char}
    (ends : EndsNumber rest) (negative : Bool)
    : unsigned? negative
        (c :: ((if places.isEmpty then [] else '.' :: places)
          ++ 'e' :: ((Double.exponentText e).toList ++ rest)))
      = some (.ok (.double (.ofDecimal negative (Digits.value (c :: places)) (e - places.length)),
          rest)) := by
  have proper : Whole [c] :=
    ⟨by simp, by simpa using digit, fun leading => by simpa using leading⟩
  have raised := exponentPart_append e ends.noDigit
  cases places with
  | nil =>
      have read := unsigned?_of_parts proper (NoDigit.of_exponent e rest)
        (fractionPart_exponent e rest) rfl raised rfl negative
      simpa using read
  | cons d more =>
      have point
          : NoDigit ('.' :: (d :: more ++ 'e' :: ((Double.exponentText e).toList ++ rest))) := by
        intro c next
        obtain rfl : '.' = c := by simpa using next
        rfl
      have read := unsigned?_of_parts proper point
        (fractionPart_append (by simp) allDigits (NoDigit.of_exponent e rest)) rfl raised rfl
        negative
      simpa using read

-----------------------------------------------------------------------------------------
-- Layouts of a decimal
-----------------------------------------------------------------------------------------

/-- The digits of a positive number, followed by others, are the whole part of a number. -/
theorem Whole.of_digits {n : Nat} (positive : 0 < n) {more : List Char}
    (allDigits : ∀ c ∈ more, c.isDigit = true)
    : Whole (Nat.toDigits 10 n ++ more) := by
  refine ⟨by simp [Nat.toDigits_ne_nil], ?_, ?_⟩
  · intro c member
    rcases List.mem_append.mp member with digit | digit
    · exact Digits.isDigit_toDigits digit
    · exact allDigits c digit
  · obtain ⟨c, rest, digits, nonzero⟩ := Digits.exists_toDigits_eq_cons positive
    rw [digits]
    intro leading
    exact absurd (by simpa using leading) nonzero

/-- A decimal without a fraction is written with a zero behind its point. -/
theorem unsigned?_wholeLayout {d : Decimal} (positive : 0 < d.digits) (whole : 0 ≤ d.exponent)
    {rest : List Char} (ends : EndsNumber rest) (negative : Bool)
    : unsigned? negative
        ((String.ofList (Nat.toDigits 10 d.digits ++ List.replicate d.exponent.toNat '0')
          ++ ".0").toList ++ rest)
      = some (.ok (.double (.ofDecimal negative d.digits d.exponent), rest)) := by
  have zeros : ∀ c ∈ List.replicate d.exponent.toNat '0', c.isDigit = true := by
    intro c member
    obtain rfl := List.eq_of_mem_replicate member
    rfl
  have read := unsigned?_fraction (Whole.of_digits positive zeros) (List.cons_ne_nil '0' [])
    (by simp) ends negative
  have value
      : Digits.value (Nat.toDigits 10 d.digits ++ List.replicate d.exponent.toNat '0' ++ ['0'])
        = d.digits * 10 ^ (d.exponent.toNat + 1) := by
    rw [List.append_assoc, ← List.replicate_succ', Digits.value_append_zeros, Digits.value_toDigits]
  rw [value, Double.ofDecimal_mul_pow] at read
  have exponent
      : -((['0'] : List Char).length : Int) + (d.exponent.toNat + 1 : Nat) = d.exponent := by
    simp only [List.length_singleton]
    omega
  rw [exponent] at read
  simpa using read

/-- The digits of a number with zeros in front, so that there are more than `places` of them. -/
def paddedDigits (places n : Nat) : List Char :=
  List.replicate (places + 1 - (Nat.toDigits 10 n).length) '0' ++ Nat.toDigits 10 n

theorem length_paddedDigits (places n : Nat)
    : (paddedDigits places n).length
      = places + 1 - (Nat.toDigits 10 n).length + (Nat.toDigits 10 n).length := by
  simp [paddedDigits]

theorem isDigit_paddedDigits {places n : Nat} {c : Char} (member : c ∈ paddedDigits places n)
    : c.isDigit = true := by
  rcases List.mem_append.mp member with zero | digit
  · obtain rfl := List.eq_of_mem_replicate zero
    rfl
  · exact Digits.isDigit_toDigits digit

/-- The digits in front of the last `places` ones are a whole part. It begins with a zero only if
that is all of it, since zeros are put in front of short numbers alone.
-/
theorem Whole.of_paddedDigits {n : Nat} (positive : 0 < n) (places : Nat)
    : Whole ((paddedDigits places n).take ((paddedDigits places n).length - places)) := by
  have length := length_paddedDigits places n
  refine ⟨?_, fun c member => isDigit_paddedDigits (List.mem_of_mem_take member), ?_⟩
  · apply List.ne_nil_of_length_pos
    rw [List.length_take]
    omega
  · intro leading
    by_cases long : places + 1 ≤ (Nat.toDigits 10 n).length
    · obtain ⟨c, more, same, nonzero⟩ := Digits.exists_toDigits_eq_cons positive
      have padded : paddedDigits places n = c :: more := by
        rw [paddedDigits, Nat.sub_eq_zero_of_le long, same]
        rfl
      obtain ⟨k, some⟩ : ∃ k, (paddedDigits places n).length - places = k + 1 :=
        ⟨(paddedDigits places n).length - places - 1, by omega⟩
      rw [some, padded, List.take_succ_cons] at leading
      exact absurd (by simpa using leading) nonzero
    · have one : (paddedDigits places n).length - places = 1 := by omega
      rw [one] at leading ⊢
      cases same : paddedDigits places n with
      | nil => rw [same] at leading; contradiction
      | cons c more =>
          rw [same] at leading
          simpa using leading

/-- A decimal with a fraction is written with its point, and zeros around it where needed. -/
theorem unsigned?_pointed {d : Decimal} (positive : 0 < d.digits) (fractional : d.exponent < 0)
    {rest : List Char} (ends : EndsNumber rest) (negative : Bool)
    : unsigned? negative
        ((Double.pointed (Nat.toDigits 10 d.digits) (-d.exponent).toNat).toList ++ rest)
      = some (.ok (.double (.ofDecimal negative d.digits d.exponent), rest)) := by
  obtain ⟨places, count⟩ : ∃ places : Nat, d.exponent = -places := ⟨(-d.exponent).toNat, by omega⟩
  have same : (-d.exponent).toNat = places := by omega
  have length := length_paddedDigits places d.digits
  have behind : ((paddedDigits places d.digits).drop
      ((paddedDigits places d.digits).length - places)).length = places := by
    rw [List.length_drop]
    omega
  have read := unsigned?_fraction (Whole.of_paddedDigits positive places)
    (List.ne_nil_of_length_pos (by rw [behind]; omega))
    (fun c member => isDigit_paddedDigits (List.mem_of_mem_drop member)) ends negative
  rw [List.take_append_drop, behind, ← count] at read
  rw [paddedDigits, Digits.value_zeros_append, Digits.value_toDigits] at read
  rw [Double.pointed, same]
  simpa using read

/-- A decimal is written with its first digit in front of the point, and an exponent. -/
theorem unsigned?_scientific {d : Decimal} (positive : 0 < d.digits) {rest : List Char}
    (ends : EndsNumber rest) (negative : Bool)
    : unsigned? negative
        ((((match Nat.toDigits 10 d.digits with
            | [] => ""
            | [c] => c.toString
            | c :: rest => String.ofList (c :: '.' :: rest)) ++ "e"
          ++ Double.exponentText (d.point - 1))).toList ++ rest)
      = some (.ok (.double (.ofDecimal negative d.digits d.exponent), rest)) := by
  have value := Digits.value_toDigits d.digits
  have allDigits : ∀ c ∈ Nat.toDigits 10 d.digits, c.isDigit = true :=
    fun c => Digits.isDigit_toDigits
  have point : d.point = d.exponent + (Nat.toDigits 10 d.digits).length := rfl
  obtain ⟨c, more, digits, -⟩ := Digits.exists_toDigits_eq_cons positive
  rw [digits] at value allDigits point ⊢
  have read := unsigned?_exponent (allDigits c (by simp))
    (fun c member => allDigits c (List.mem_cons_of_mem _ member)) (d.point - 1) ends negative
  have exponent : d.point - 1 - (more.length : Int) = d.exponent := by
    rw [point, List.length_cons]
    push_cast
    omega
  rw [value, exponent] at read
  rw [← read]
  cases more with
  | nil => simp
  | cons next more => simp

/-- A written decimal is read back, whatever its layout. -/
theorem unsigned?_decimal (style : Double.Style) {d : Decimal} (positive : 0 < d.digits)
    {rest : List Char} (ends : EndsNumber rest) (negative : Bool)
    : unsigned? negative ((style.decimal d).toList ++ rest)
      = some (.ok (.double (.ofDecimal negative d.digits d.exponent), rest)) := by
  unfold Double.Style.decimal
  dsimp only
  split
  · split
    · next whole => exact unsigned?_wholeLayout positive whole ends negative
    · next fractional => exact unsigned?_pointed positive (by omega) ends negative
  · exact unsigned?_scientific positive ends negative

end Json

end FeatureFlags
