import FeatureFlags.Calendar.Date
import FeatureFlags.Text.Digits

/-! Moments: a day and a time of day, with or without a distance from universal time. Moments with
such an offset are compared as instants, unless both are read from the clock of one place: then their
readings are compared, also where that clock was set back in between. A moment without an offset
cannot be compared with those that have one.
-/

namespace FeatureFlags

/-- The clock of a place, at one of its readings. A clock that is set back shows some of them twice,
with different offsets.
-/
structure PlaceClock where
  /-- The name of the place, such as `Europe/Berlin`. -/
  name : String
  /-- Whether it is the second time that the reading is shown. -/
  again : Bool
  /-- Whether the first and the second time have different offsets. -/
  ambiguous : Bool
deriving DecidableEq, Repr

/-- A day and a time of day. -/
structure Moment where
  date : Date
  time : TimeOfDay
  /-- Seconds by which local time is ahead of universal time, if that is known. -/
  offset : Option Int
  /-- The clock from which the offset comes, if it is that of a place. -/
  clock : Option PlaceClock
deriving DecidableEq, Repr

namespace Moment

/-- Whether the offset from universal time is known. -/
def isAware (m : Moment) : Bool := m.offset.isSome

/-- Microseconds from the start of 1970 to this moment by the local clock. -/
def reading (m : Moment) : Int :=
  let days : Int := (m.date.ordinal : Int) - Date.epochOrdinal
  (days * 86400 + m.time.seconds) * 1000000 + m.time.micro

/-- Microseconds from the start of 1970 to this moment; local time counts as universal time where
the offset is not known. -/
def instant (m : Moment) : Int := m.reading - m.offset.getD 0 * 1000000

/-- Whether two moments are read from the clock of one place. -/
def sharesClock (m other : Moment) : Bool :=
  match m.clock, other.clock with
  | some clock, some otherClock => clock.name == otherClock.name
  | _, _ => false

/-- Whether one moment is not after another: by the clock that they share, or else as instants. -/
def notAfter (m other : Moment) : Bool :=
  if m.sharesClock other then m.reading ≤ other.reading else m.instant ≤ other.instant

/-- Whether one moment is not after another, or `none` when only one of them has an offset. -/
def le? (m other : Moment) : Option Bool :=
  if m.isAware = other.isAware then some (m.notAfter other) else none

/-- Whether two moments count as equal. A reading that a clock shows twice equals nothing but
readings of that clock. -/
def same (m other : Moment) : Bool :=
  if m.sharesClock other then m.reading == other.reading
  else
    m.isAware == other.isAware && m.instant == other.instant &&
      !m.clock.any PlaceClock.ambiguous && !other.clock.any PlaceClock.ambiguous

end Moment

/-- A moment of which the offset is known. -/
structure AwareMoment extends Moment where
  aware : toMoment.isAware = true
deriving DecidableEq

namespace Moment

/-- The same moment, taken as universal time if its offset is not known. -/
def assumeUtc (m : Moment) : AwareMoment := ⟨{ m with offset := some (m.offset.getD 0) }, rfl⟩

/-- The moment in universal time that lies so many seconds after the start of 1970. -/
def ofEpochSeconds? (seconds : Int) (micro : Nat) : Option Moment := do
  let days := seconds.fdiv 86400
  let date ← Date.ofEpochDay? days
  return ⟨date, .ofSeconds (seconds - days * 86400).toNat micro, some 0, none⟩

/-- Text of an offset, such as `+05:30`, with seconds only where there are any. -/
def offsetText (offset : Int) : String :=
  let size := offset.natAbs
  (if offset < 0 then "-" else "+") ++ padded 2 (size / 3600) ++ ":" ++
  padded 2 (size / 60 % 60) ++ (if size % 60 = 0 then "" else ":" ++ padded 2 (size % 60))

/-- Text such as `2026-01-31T09:05:00+00:00`. -/
def iso (m : Moment) : String :=
  m.date.iso ++ "T" ++ m.time.iso ++ (m.offset.map offsetText).getD ""

/-- Text of an offset to the minute: nothing where it is not known and `Z` for universal time. -/
def offsetDocumentText : Option Int → String
  | none => ""
  | some 0 => "Z"
  | some offset =>
    (if offset < 0 then "-" else "+") ++ padded 2 (offset.natAbs / 3600) ++ ":" ++
      padded 2 (offset.natAbs / 60 % 60)

/-- Text with `Z` for universal time and offsets to the minute, as documents hold it. -/
def documentText (m : Moment) : String :=
  m.date.iso ++ "T" ++ m.time.iso ++ offsetDocumentText m.offset

/-! ### Reading -/

/-- The value of a run of exactly `count` decimal digits, and what follows it. -/
def digits? (count : Nat) (s : List Char) : Option (Nat × List Char) :=
  let run := s.take count
  if run.length = count ∧ run.all Char.isDigit then
    some (Digits.value run, s.drop count)
  else none

/-- Microseconds of the digits of a fraction; digits past the sixth are cut off. -/
def microOfDigits (digits : List Char) : Nat :=
  Digits.value ((digits ++ List.replicate 6 '0').take 6)

/-- Reads a clock time of hours, minutes, seconds and a fraction, each but the first optional. -/
def clock? (s : List Char) : Option (TimeOfDay × List Char) := do
  let (hour, rest) ← digits? 2 s
  match rest with
  | ':' :: rest =>
    let (minute, rest) ← digits? 2 rest
    match rest with
    | ':' :: rest =>
      let (second, rest) ← digits? 2 rest
      match rest with
      | mark :: rest' =>
        if mark = '.' ∨ mark = ',' then
          let fraction := rest'.takeWhile Char.isDigit
          if fraction.isEmpty then none
          else
            let time ← TimeOfDay.of? hour minute second (microOfDigits fraction)
            return (time, rest'.dropWhile Char.isDigit)
        else return (← TimeOfDay.of? hour minute second 0, rest)
      | [] => return (← TimeOfDay.of? hour minute second 0, rest)
    | _ => return (← TimeOfDay.of? hour minute 0 0, rest)
  | _ => return (← TimeOfDay.of? hour 0 0 0, rest)

/-- Reads an offset from universal time. -/
def isoOffset? (s : List Char) : Option (Option Int) :=
  match s with
  | [] => some none
  | ['Z'] => some (some 0)
  | sign :: rest =>
    if sign = '+' ∨ sign = '-' then
      match clock? rest with
      | some (time, []) =>
        some (some (if sign = '-' then -(time.seconds : Int) else time.seconds))
      | _ => none
    else none

/-- Reads a day such as `2026-01-31`. -/
def day? (s : List Char) : Option (Date × List Char) := do
  let (year, rest) ← digits? 4 s
  let '-' :: rest := rest | none
  let (month, rest) ← digits? 2 rest
  let '-' :: rest := rest | none
  let (day, rest) ← digits? 2 rest
  return (← Date.of? year month day, rest)

/-- Reads a day, or a day and a time of day with any one character between them. -/
def ofIso? (s : List Char) : Option Moment := do
  let (date, rest) ← day? s
  match rest with
  | [] => return ⟨date, .midnight, none, none⟩
  | _ :: rest =>
    let (time, rest) ← clock? rest
    return ⟨date, time, ← isoOffset? rest, none⟩

end Moment

end FeatureFlags
