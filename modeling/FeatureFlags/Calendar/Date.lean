/-! Days of the calendar that counts the present leap-year rule backwards and forwards, and times of
day.
-/

namespace FeatureFlags

/-- A number in decimal digits, filled up with zeros on the left. -/
def padded (width n : Nat) : String :=
  let digits := toString n
  String.ofList (List.replicate (width - digits.length) '0') ++ digits

namespace Date

def isLeap (year : Nat) : Bool := year % 4 = 0 && (year % 100 ≠ 0 || year % 400 = 0)

/-- The number of days of a month; `0` for a number that belongs to no month. -/
def daysInMonth (year month : Nat) : Nat :=
  match month with
  | 1 | 3 | 5 | 7 | 8 | 10 | 12 => 31
  | 4 | 6 | 9 | 11 => 30
  | 2 => if isLeap year then 29 else 28
  | _ => 0

/-- Whether the three numbers name a day of the years 1 to 9999. -/
def exists? (year month day : Nat) : Bool :=
  1 ≤ year && year ≤ 9999 && 1 ≤ day && day ≤ daysInMonth year month

end Date

/-- A day of the calendar. -/
structure Date where
  year : Nat
  month : Nat
  day : Nat
  valid : Date.exists? year month day = true
deriving DecidableEq, Repr

namespace Date

def of? (year month day : Nat) : Option Date :=
  if h : exists? year month day = true then some ⟨year, month, day, h⟩ else none

/-- The number of days from the first day of year 1 to this one. -/
def ordinal (d : Date) : Nat :=
  let before := d.year - 1
  365 * before + before / 4 - before / 100 + before / 400 +
    (List.range (d.month - 1)).foldl (fun days m => days + daysInMonth d.year (m + 1)) 0 +
    (d.day - 1)

/-- The days from the first day of year 1 to the first day of 1970. -/
def epochOrdinal : Nat := 719162

/-- The day that lies so many days after the first day of 1970. -/
def ofEpochDay? (days : Int) : Option Date :=
  -- Years are counted from the first of March, so that the leap day comes last.
  let shifted := days + 719468
  let era := shifted.fdiv 146097
  let dayOfEra := (shifted - era * 146097).toNat
  let yearOfEra := (dayOfEra - dayOfEra / 1460 + dayOfEra / 36524 - dayOfEra / 146096) / 365
  let dayOfYear := dayOfEra - (365 * yearOfEra + yearOfEra / 4 - yearOfEra / 100)
  let fromMarch := (5 * dayOfYear + 2) / 153
  let day := dayOfYear - (153 * fromMarch + 2) / 5 + 1
  let month := if fromMarch < 10 then fromMarch + 3 else fromMarch - 9
  let year := yearOfEra + era * 400 + (if month ≤ 2 then 1 else 0)
  if year < 0 then none else of? year.toNat month day

/-- Text such as `2026-01-31`. -/
def iso (d : Date) : String :=
  padded 4 d.year ++ "-" ++ padded 2 d.month ++ "-" ++ padded 2 d.day

end Date

/-- A time of day to the microsecond. -/
structure TimeOfDay where
  hour : Nat
  minute : Nat
  second : Nat
  micro : Nat
  valid : hour < 24 ∧ minute < 60 ∧ second < 60 ∧ micro < 1000000
deriving DecidableEq, Repr

namespace TimeOfDay

def midnight : TimeOfDay := ⟨0, 0, 0, 0, by decide⟩

def of? (hour minute second micro : Nat) : Option TimeOfDay :=
  if h : hour < 24 ∧ minute < 60 ∧ second < 60 ∧ micro < 1000000 then
    some ⟨hour, minute, second, micro, h⟩
  else none

/-- The seconds since midnight, without their fraction. -/
def seconds (t : TimeOfDay) : Nat := t.hour * 3600 + t.minute * 60 + t.second

/-- Text such as `09:05:00` or `09:05:00.000250`. -/
def iso (t : TimeOfDay) : String :=
  padded 2 t.hour ++ ":" ++ padded 2 t.minute ++ ":" ++ padded 2 t.second ++
  (if t.micro = 0 then "" else "." ++ padded 6 t.micro)

/-- The time of day that lies so many seconds and microseconds after midnight. -/
def ofSeconds (seconds micro : Nat) : TimeOfDay :=
  let s := seconds % 86400
  ⟨s / 3600, s / 60 % 60, s % 60, micro % 1000000, by omega⟩

end TimeOfDay

end FeatureFlags
