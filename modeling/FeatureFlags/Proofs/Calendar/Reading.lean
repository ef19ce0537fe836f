import FeatureFlags.Field.Basic
import FeatureFlags.Proofs.Datum.Plain

/-! Moments that are read from plain data can be held by documents: numbers count from universal time,
and written offsets are whole minutes.
-/

namespace FeatureFlags

namespace Moment

/-- The moment is in universal time, which no place sets back. -/
structure Universal (m : Moment) : Prop where
  offset : m.offset = some 0
  placeless : m.clock = none

theorem Universal.documented {m : Moment} (universal : m.Universal) : m.Documented := by
  refine ⟨fun offset same => ?_, universal.placeless⟩
  obtain rfl : 0 = offset := Option.some.inj (universal.offset.symm.trans same)
  decide

/-- A moment without an offset and a place. -/
theorem documented_local (date : Date) (time : TimeOfDay)
    : Documented ⟨date, time, none, none⟩ :=
  ⟨fun _ same => absurd same (Option.some_ne_none _).symm, rfl⟩

theorem Documented.assumeUtc {m : Moment} (documented : m.Documented)
    : m.assumeUtc.toMoment.Documented := by
  cases offset : m.offset with
  | none =>
      refine Universal.documented ⟨?_, documented.placeless⟩
      simp [Moment.assumeUtc, offset]
  | some seconds =>
      refine ⟨fun other same => ?_, documented.placeless⟩
      obtain rfl : seconds = other := by simpa [Moment.assumeUtc, offset] using same
      exact documented.wholeMinutes seconds offset

-----------------------------------------------------------------------------------------
-- Numbers
-----------------------------------------------------------------------------------------

theorem universal_ofSeconds {seconds : Int} {micro : Nat} {m : Moment}
    (read : ofSeconds seconds micro = .ok m)
    : m.Universal := by
  unfold ofSeconds at read
  dsimp only at read
  split at read
  · contradiction
  · split at read
    · contradiction
    · split at read
      · next found =>
          obtain rfl := Except.ok.inj read
          obtain ⟨date, -, same⟩ := Option.bind_eq_some_iff.mp found
          obtain rfl := Option.some.inj same
          exact ⟨rfl, rfl⟩
      · contradiction

theorem universal_ofCount {n : Int} {micro : Nat} {m : Moment} (read : ofCount n micro = .ok m)
    : m.Universal := by
  unfold ofCount at read
  split at read
  · exact universal_ofSeconds read
  · exact universal_ofSeconds read

theorem universal_ofDouble {x : Double} {m : Moment} (read : ofDouble x = .ok m)
    : m.Universal := by
  unfold ofDouble at read
  split at read
  · contradiction
  · split at read
    · contradiction
    · exact universal_ofCount read

theorem universal_ofNumeral? {s : List Char} {m : Moment} (read : ofNumeral? s = some (.ok m))
    : m.Universal := by
  obtain ⟨⟨negative, whole, fraction⟩, -, read⟩ := Option.bind_eq_some_iff.mp read
  dsimp only at read
  split at read
  · generalize (if negative = true then -(Digits.value whole : Int) else Digits.value whole) = n at read
    split at read
    · exact universal_ofCount (Option.some.inj read)
    · contradiction
  · exact universal_ofSeconds (Option.some.inj read)

-----------------------------------------------------------------------------------------
-- Texts
-----------------------------------------------------------------------------------------

/-- A written offset is a number of whole minutes within a day. -/
theorem writtenOffset?_documented {s : List Char} {offset : Option Int} {seconds : Int}
    (read : writtenOffset? s = some offset) (known : offset = some seconds)
    : seconds % 60 = 0 ∧ seconds.natAbs < 86400 := by
  subst known
  unfold writtenOffset? at read
  split at read
  · simp at read
  · obtain rfl : 0 = seconds := by simpa using read
    decide
  · obtain rfl : 0 = seconds := by simpa using read
    decide
  · obtain ⟨negative, -, read⟩ := Option.bind_eq_some_iff.mp read
    obtain ⟨⟨hours, afterHours⟩, -, read⟩ := Option.bind_eq_some_iff.mp read
    obtain ⟨⟨minutes, afterMinutes⟩, -, read⟩ := Option.bind_eq_some_iff.mp read
    split at read
    · next minutes left same =>
      split at read
      · contradiction
      · next inRange =>
          obtain rfl := Option.some.inj (Option.some.inj read)
          split <;> omega
    · contradiction

theorem documented_of_ofWritten {d : WrittenDay} {time : TimeOfDay} {offset : Option Int}
    {m : Moment} (read : ofWritten d time offset = .ok m)
    (documented : ∀ n, offset = some n → n % 60 = 0 ∧ n.natAbs < 86400)
    : m.Documented := by
  unfold ofWritten at read
  split at read
  · obtain rfl := Except.ok.inj read
    exact ⟨documented, rfl⟩
  · contradiction

theorem documented_of_ofDocumentText {s : List Char} {m : Moment}
    (read : ofDocumentText s = .ok m)
    : m.Documented := by
  unfold ofDocumentText at read
  split at read
  · split at read
    · next found => exact (universal_ofNumeral? (read ▸ found)).documented
    · contradiction
  · split at read
    · next clock =>
        refine documented_of_ofWritten read fun n known => ?_
        unfold writtenClock? at clock
        split at clock
        · split at clock
          · obtain ⟨⟨t, rest⟩, -, clock⟩ := Option.bind_eq_some_iff.mp clock
            obtain ⟨offset, found, clock⟩ := Option.bind_eq_some_iff.mp clock
            obtain ⟨-, rfl⟩ := Prod.mk.inj (Option.some.inj clock)
            exact writtenOffset?_documented found known
          · contradiction
        · contradiction
    · split at read
      · exact documented_of_ofWritten read (by simp)
      · contradiction

end Moment

namespace Field

/-- A moment that is read from plain data can be held by documents. -/
theorem documented_of_moment {x : Datum} (plain : x.Plain) {m : AwareMoment}
    (read : moment x = .ok m)
    : m.toMoment.Documented := by
  unfold moment at read
  split at read
  · next found =>
      obtain rfl := Checked.ok.inj read
      apply Moment.Documented.assumeUtc
      unfold momentOf at found
      split at found
      · obtain rfl := Except.ok.inj found
        cases plain with
        | moment documented => exact documented
      · exact Except.ok.inj found ▸ Moment.documented_local _ _
      · split at found
        · exact (Moment.universal_ofCount found).documented
        · split at found
          · exact (Moment.universal_ofDouble found).documented
          · contradiction
      · exact (Moment.universal_ofDouble found).documented
      · exact Moment.documented_of_ofDocumentText found
      · contradiction
  · contradiction

/-- The text of a moment that documents can hold is read back as the moment. -/
theorem moment_documentText {m : AwareMoment} (documented : m.toMoment.Documented)
    : moment (.text m.documentText) = .ok m := by
  obtain ⟨m, aware⟩ := m
  obtain ⟨offset, known⟩ := Option.isSome_iff_exists.mp aware
  have universal : m.assumeUtc = ⟨m, aware⟩ := by
    cases m
    simp only [Moment.assumeUtc] at known ⊢
    simp [known]
  simp only [moment, momentOf, Moment.ofDocumentText_documentText documented, universal]

end Field

end FeatureFlags
