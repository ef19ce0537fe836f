import FeatureFlags.Calendar.Lenient
import FeatureFlags.Proofs.Number.Digits
import Mathlib.Algebra.Group.Nat.Defs

/-! Moments in documents are read back as they were written: the day, the time of day to the
microsecond, and an offset of whole minutes.
-/

namespace FeatureFlags

-----------------------------------------------------------------------------------------
-- Digits of a fixed number
-----------------------------------------------------------------------------------------

namespace Digits

/-- Digits that stand for a number. -/
structure StandFor (digits : List Char) (n : Nat) : Prop where
  allDigits : ∀ c ∈ digits, c.isDigit = true
  value : value digits = n

/-- A number that is small enough is filled up to exactly the given width. -/
theorem padded_standsFor {width : Nat} (positive : 0 < width) {n : Nat} (bound : n < 10 ^ width)
    : (padded width n).toList.length = width ∧ StandFor (padded width n).toList n := by
  have short : (Nat.toDigits 10 n).length ≤ width :=
    (Nat.length_toDigits_le_iff (by decide) positive).mpr bound
  have digits : (toString n).toList = Nat.toDigits 10 n := Nat.toList_repr
  have text : (padded width n).toList
      = List.replicate (width - (Nat.toDigits 10 n).length) '0' ++ Nat.toDigits 10 n := by
    rw [padded, String.toList_append, String.toList_ofList, ← String.length_toList, digits]
  rw [text]
  refine ⟨?_, ?_, ?_⟩
  · rw [List.length_append, List.length_replicate]
    omega
  · intro c member
    rcases List.mem_append.mp member with zero | digit
    · obtain rfl := List.eq_of_mem_replicate zero
      rfl
    · exact isDigit_toDigits digit
  · rw [value_zeros_append, value_toDigits]

theorem exists_padded_two {n : Nat} (bound : n < 100)
    : ∃ a b, (padded 2 n).toList = [a, b] ∧ StandFor [a, b] n := by
  obtain ⟨length, stands⟩ := padded_standsFor (Nat.succ_pos 1) bound
  match same : (padded 2 n).toList, length with
  | [a, b], _ => exact ⟨a, b, rfl, same ▸ stands⟩

theorem exists_padded_four {n : Nat} (bound : n < 10000)
    : ∃ a b c d, (padded 4 n).toList = [a, b, c, d] ∧ StandFor [a, b, c, d] n := by
  obtain ⟨length, stands⟩ := padded_standsFor (Nat.succ_pos 3) bound
  match same : (padded 4 n).toList, length with
  | [a, b, c, d], _ => exact ⟨a, b, c, d, rfl, same ▸ stands⟩

end Digits

namespace Moment

open Digits (StandFor)

/-- Digits are read as the number that they stand for. -/
theorem digits?_append {digits : List Char} {n : Nat} (stands : StandFor digits n)
    (rest : List Char)
    : digits? digits.length (digits ++ rest) = some (n, rest) := by
  have all : digits.all Char.isDigit = true := List.all_eq_true.mpr stands.allDigits
  simp only [digits?, List.take_left, List.drop_left, all, and_self, if_true, stands.value]

theorem digits?_two {a b : Char} {n : Nat} (stands : StandFor [a, b] n) (rest : List Char)
    : digits? 2 (a :: b :: rest) = some (n, rest) :=
  digits?_append stands rest

theorem digits?_four {a b c d : Char} {n : Nat} (stands : StandFor [a, b, c, d] n)
    (rest : List Char)
    : digits? 4 (a :: b :: c :: d :: rest) = some (n, rest) :=
  digits?_append stands rest

/-- Six digits of a fraction are its microseconds. -/
theorem microOfDigits_six {digits : List Char} {n : Nat} (length : digits.length = 6)
    (stands : StandFor digits n)
    : microOfDigits digits = n := by
  rw [microOfDigits, List.take_append_of_le_length (by omega), List.take_of_length_le (by omega)]
  exact stands.value

-----------------------------------------------------------------------------------------
-- Days
-----------------------------------------------------------------------------------------

/-- A text has at least as many bytes as characters, by list induction. -/
theorem length_le_utf8ByteSize (s : List Char) : s.length ≤ (String.ofList s).utf8ByteSize := by
  induction s with
  | nil => simp
  | cons c rest ih =>
      have positive := c.utf8Size_pos
      rw [String.ofList_cons, String.utf8ByteSize_append, String.utf8ByteSize_singleton,
        List.length_cons]
      omega

theorem month_of_daysInMonth_pos {year month : Nat} (positive : 0 < Date.daysInMonth year month)
    : 1 ≤ month ∧ month ≤ 12 := by
  unfold Date.daysInMonth at positive
  split at positive <;> omega

/-- The numbers of a day are in their ranges. -/
theorem date_bounds (d : Date)
    : (1 ≤ d.year ∧ d.year ≤ 9999) ∧ (1 ≤ d.month ∧ d.month ≤ 12)
      ∧ 1 ≤ d.day ∧ d.day ≤ Date.daysInMonth d.year d.month := by
  have valid := d.valid
  simp only [Date.exists?, Bool.and_eq_true, decide_eq_true_eq] at valid
  obtain ⟨⟨⟨least, greatest⟩, first⟩, last⟩ := valid
  have positive : 0 < Date.daysInMonth d.year d.month := by omega
  exact ⟨⟨least, greatest⟩, month_of_daysInMonth_pos positive, first, last⟩

theorem daysInMonth_le (year month : Nat) : Date.daysInMonth year month ≤ 31 := by
  unfold Date.daysInMonth
  split <;> first
    | decide
    | split <;> decide

/-- The text of a day in single characters. -/
theorem exists_dateText (d : Date)
    : ∃ a b c e f g h i, d.iso.toList = [a, b, c, e, '-', f, g, '-', h, i]
        ∧ StandFor [a, b, c, e] d.year ∧ StandFor [f, g] d.month ∧ StandFor [h, i] d.day := by
  obtain ⟨year, month, day⟩ := date_bounds d
  have days := daysInMonth_le d.year d.month
  obtain ⟨a, b, c, e, yearText, yearStands⟩ := Digits.exists_padded_four (n := d.year) (by omega)
  obtain ⟨f, g, monthText, monthStands⟩ := Digits.exists_padded_two (n := d.month) (by omega)
  obtain ⟨h, i, dayText, dayStands⟩ := Digits.exists_padded_two (n := d.day) (by omega)
  refine ⟨a, b, c, e, f, g, h, i, ?_, yearStands, monthStands, dayStands⟩
  simp [Date.iso, yearText, monthText, dayText]

/-- A written day is read back, whatever follows it. -/
theorem writtenDay_iso (d : Date) (rest : List Char)
    : writtenDay (d.iso.toList ++ rest) = .ok ⟨d.year, d.month, d.day⟩
      ∧ (d.iso.toList ++ rest).drop 10 = rest := by
  obtain ⟨-, month, day⟩ := date_bounds d
  obtain ⟨a, b, c, e, f, g, h, i, text, yearStands, monthStands, dayStands⟩ := exists_dateText d
  have monthIn : ¬ (d.month = 0 ∨ 12 < d.month) := by omega
  have dayIn : ¬ (d.day = 0 ∨ Date.daysInMonth d.year d.month < d.day) := by omega
  rw [text]
  refine ⟨?_, rfl⟩
  have long : ¬ (String.ofList ([a, b, c, e, '-', f, g, '-', h, i] ++ rest)).utf8ByteSize < 10 := by
    have bytes := length_le_utf8ByteSize ([a, b, c, e, '-', f, g, '-', h, i] ++ rest)
    simp only [List.length_append, List.length_cons] at bytes
    omega
  have yearAt : digitsAt ([a, b, c, e, '-', f, g, '-', h, i] ++ rest) 0 4 = some d.year := by
    simp [digitsAt, digits?_four yearStands]
  have monthAt : digitsAt ([a, b, c, e, '-', f, g, '-', h, i] ++ rest) 5 2 = some d.month := by
    simp [digitsAt, digits?_two monthStands]
  have dayAt : digitsAt ([a, b, c, e, '-', f, g, '-', h, i] ++ rest) 8 2 = some d.day := by
    simp [digitsAt, digits?_two dayStands]
  unfold writtenDay
  rw [if_neg long, yearAt, monthAt, dayAt]
  simp [monthIn, dayIn, Pure.pure, Except.pure]

-----------------------------------------------------------------------------------------
-- Times of day
-----------------------------------------------------------------------------------------

/-- Nothing that continues a time of day comes next. -/
def EndsTime (rest : List Char) : Prop :=
  ∀ c ∈ rest.head?, c.isDigit = false ∧ c ≠ '.' ∧ c ≠ ','

/-- Digits in front of the end of a time are taken, and no others. -/
theorem EndsTime.span_digits {digits rest : List Char} (ends : EndsTime rest)
    (allDigits : ∀ c ∈ digits, c.isDigit = true)
    : (digits ++ rest).takeWhile Char.isDigit = digits
      ∧ (digits ++ rest).dropWhile Char.isDigit = rest := by
  rw [List.takeWhile_append_of_pos allDigits, List.dropWhile_append_of_pos allDigits]
  cases rest with
  | nil => simp
  | cons mark rest => simp [(ends mark rfl).1]

/-- A written time of day is read back, to the microsecond. -/
theorem writtenTime?_iso (t : TimeOfDay) {rest : List Char} (ends : EndsTime rest)
    : writtenTime? (t.iso.toList ++ rest) = some (t, rest) := by
  obtain ⟨hour, minute, second, micro, valid⟩ := t
  obtain ⟨a, b, hourText, hourStands⟩ := Digits.exists_padded_two (n := hour) (by omega)
  obtain ⟨c, d, minuteText, minuteStands⟩ := Digits.exists_padded_two (n := minute) (by omega)
  obtain ⟨e, f, secondText, secondStands⟩ := Digits.exists_padded_two (n := second) (by omega)
  have clock : TimeOfDay.of? hour minute second micro = some ⟨hour, minute, second, micro, valid⟩ :=
    dif_pos valid
  by_cases whole : micro = 0
  · subst whole
    have text : (TimeOfDay.iso ⟨hour, minute, second, 0, valid⟩).toList ++ rest
        = a :: b :: ':' :: c :: d :: ':' :: e :: f :: rest := by
      simp [TimeOfDay.iso, hourText, minuteText, secondText]
    have fraction : microOfDigits [] = 0 := rfl
    rw [text]
    cases rest with
    | nil =>
        simp [writtenTime?, digits?_two hourStands, digits?_two minuteStands,
          digits?_two secondStands, fraction, clock]
    | cons mark rest =>
        obtain ⟨-, point, comma⟩ := ends mark rfl
        simp [writtenTime?, digits?_two hourStands, digits?_two minuteStands,
          digits?_two secondStands, fraction, clock, point, comma]
  · have bound : micro < 10 ^ 6 := valid.2.2.2
    obtain ⟨length, stands⟩ := Digits.padded_standsFor (Nat.succ_pos 5) bound
    have text : (TimeOfDay.iso ⟨hour, minute, second, micro, valid⟩).toList ++ rest
        = a :: b :: ':' :: c :: d :: ':' :: e :: f :: '.' :: ((padded 6 micro).toList ++ rest) := by
      simp [TimeOfDay.iso, whole, hourText, minuteText, secondText]
    have fraction : microOfDigits (padded 6 micro).toList = micro :=
      microOfDigits_six length stands
    have nonempty : (padded 6 micro).toList ≠ [] :=
      List.ne_nil_of_length_pos (by rw [length]; decide)
    have taken := ends.span_digits stands.allDigits
    have given : ¬ (padded 6 micro).toList.isEmpty = true := by simpa using nonempty
    rw [text]
    simp only [writtenTime?, digits?_two hourStands, digits?_two minuteStands,
      digits?_two secondStands, Option.bind_eq_bind, Option.bind_some, taken.1, taken.2, given,
      fraction, clock, Option.pure_def, if_false, Bool.false_eq_true]

-----------------------------------------------------------------------------------------
-- Offsets and moments
-----------------------------------------------------------------------------------------

/-- The moment can be held by documents: its offset, if it is known, is a number of whole minutes
within a day, and no place is named for it.
-/
structure Documented (m : Moment) : Prop where
  wholeMinutes : ∀ offset, m.offset = some offset → offset % 60 = 0 ∧ offset.natAbs < 86400
  placeless : m.clock = none

/-- The text of an offset other than zero. -/
theorem exists_offsetText {offset : Int} (nonzero : offset ≠ 0) (bound : offset.natAbs < 86400)
    : ∃ a b c d,
        (offsetDocumentText (some offset)).toList
          = [if offset < 0 then '-' else '+', a, b, ':', c, d]
        ∧ StandFor [a, b] (offset.natAbs / 3600)
        ∧ StandFor [c, d] (offset.natAbs / 60 % 60) := by
  obtain ⟨a, b, hours, hoursStand⟩ :=
    Digits.exists_padded_two (n := offset.natAbs / 3600) (by omega)
  obtain ⟨c, d, minutes, minutesStand⟩ :=
    Digits.exists_padded_two (n := offset.natAbs / 60 % 60) (by omega)
  refine ⟨a, b, c, d, ?_, hoursStand, minutesStand⟩
  unfold offsetDocumentText
  split
  · next none => exact absurd none (by simp)
  · next zero => exact absurd (Option.some.inj zero) nonzero
  · next same =>
      obtain rfl := Option.some.inj same
      by_cases negative : offset < 0 <;> simp [negative, hours, minutes]

theorem endsTime_offsetText {offset : Option Int}
    (bound : ∀ n, offset = some n → n.natAbs < 86400)
    : EndsTime (offsetDocumentText offset).toList := by
  intro mark next
  cases offset with
  | none => simp [offsetDocumentText] at next
  | some offset =>
      by_cases zero : offset = 0
      · subst zero
        obtain rfl : 'Z' = mark := by simpa [offsetDocumentText] using next
        decide
      · obtain ⟨a, b, c, d, text, -⟩ := exists_offsetText zero (bound offset rfl)
        rw [text] at next
        by_cases negative : offset < 0
        · obtain rfl : '-' = mark := by simpa [negative] using next
          decide
        · obtain rfl : '+' = mark := by simpa [negative] using next
          decide

/-- A written offset is read back. -/
theorem writtenOffset?_offsetText {offset : Option Int}
    (documented : ∀ n, offset = some n → n % 60 = 0 ∧ n.natAbs < 86400)
    : writtenOffset? (offsetDocumentText offset).toList = some offset := by
  cases offset with
  | none => rfl
  | some offset =>
      obtain ⟨minutes, bound⟩ := documented offset rfl
      by_cases zero : offset = 0
      · subst zero
        rfl
      · obtain ⟨a, b, c, d, text, hoursStand, minutesStand⟩ := exists_offsetText zero bound
        generalize hoursAre : offset.natAbs / 3600 = hours at hoursStand
        generalize minutesAre : offset.natAbs / 60 % 60 = rest at minutesStand
        have hoursBound : ¬ (23 < hours) := by omega
        have minutesBound : ¬ (59 < rest) := by omega
        rw [text]
        by_cases negative : offset < 0
        · simp [writtenOffset?, offsetSign?, negative, digits?_two hoursStand,
            digits?_two minutesStand, hoursBound, minutesBound]
          omega
        · simp [writtenOffset?, offsetSign?, negative, digits?_two hoursStand,
            digits?_two minutesStand, hoursBound, minutesBound]
          omega

/-- A moment in a document is read back as it is. -/
theorem ofDocumentText_documentText {m : Moment} (documented : m.Documented)
    : ofDocumentText m.documentText.toList = .ok m := by
  obtain ⟨date, time, offset, place⟩ := m
  obtain ⟨wholeMinutes, rfl⟩ := documented
  have text : (documentText ⟨date, time, offset, none⟩).toList
      = date.iso.toList ++ 'T' :: (time.iso.toList ++ (offsetDocumentText offset).toList) := by
    simp [documentText]
  obtain ⟨day, rest⟩ := writtenDay_iso date
    ('T' :: (time.iso.toList ++ (offsetDocumentText offset).toList))
  have clock : writtenClock? ('T' :: (time.iso.toList ++ (offsetDocumentText offset).toList))
      = some (time, offset) := by
    simp [writtenClock?,
      writtenTime?_iso time (endsTime_offsetText fun n same => (wholeMinutes n same).2),
      writtenOffset?_offsetText wholeMinutes]
  have found : Date.of? date.year date.month date.day = some date := dif_pos date.valid
  simp only [text, ofDocumentText, day, rest, clock, ofWritten, found]

end Moment

end FeatureFlags
