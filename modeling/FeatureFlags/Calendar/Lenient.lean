import FeatureFlags.Calendar.Moment
import FeatureFlags.Number.Double

/-! Moments as documents write them: a day, a day and a time, or the seconds since the start of 1970.
Large numbers count milliseconds.
-/

namespace FeatureFlags.Moment

/-- Why something is no moment. -/
inductive Refusal where
  /-- Values of this kind are no moments at all. -/
  | kind
  /-- The number of the moment, or its year, is out of range. -/
  | number (detail : String)
  /-- The text is neither a moment nor a day. -/
  | text (detail : String)
deriving DecidableEq, Repr

def afterLastYear : Refusal := .number "dates after 9999 are not supported as unix timestamps"

def beforeFirstYear : Refusal := .number "dates before 0000 are not supported as unix timestamps"

/-- The calendar begins with year 1, although year 0 can be written. -/
def yearZero : Refusal := .number "year 0 is out of range"

/-! ### Numbers -/

/-- Greater numbers count milliseconds. -/
def greatestSeconds : Nat := 20000000000

/-- The moment a number of seconds and microseconds after the start of 1970. -/
def ofSeconds (seconds : Int) (micro : Nat) : Except Refusal Moment :=
  let seconds := seconds + micro / 1000000
  if seconds < -62167219200 then .error beforeFirstYear
  else if 253402300799 < seconds then .error afterLastYear
  else
    match ofEpochSeconds? seconds (micro % 1000000) with
    | some m => .ok m
    | none => .error yearZero

/-- The moment of a number of seconds or milliseconds, and microseconds more. -/
def ofCount (n : Int) (micro : Nat) : Except Refusal Moment :=
  if n.natAbs ≤ greatestSeconds then ofSeconds n micro
  else ofSeconds (n.fdiv 1000) ((n.fmod 1000).toNat * 1000 + micro)

/-- The nearest integer to a number that is not negative, upwards from the middle. -/
def nearest (x : Double) : Nat := (2 * x.numerator + x.denominator) / (2 * x.denominator)

/-- Microseconds of a fraction of a second. -/
def microOfFraction (x : Double) : Nat := nearest (x.mul (.ofRatio false 1000000 1))

/-- An integer, or the nearest one that fits into a signed word. -/
def clampToWord (n : Int) : Int := max (-9223372036854775808) (min 9223372036854775807 n)

/-- The moment of a number that need not be an integer. The fraction is always counted upwards. -/
def ofDouble (x : Double) : Except Refusal Moment :=
  if x.isNaN then .error (.number "NaN values not permitted")
  else if x.isInfinite then .error (if x.negative then beforeFirstYear else afterLastYear)
  else
    let fraction := Double.ofRatio false (x.numerator % x.denominator) x.denominator
    ofCount (clampToWord x.floor) (microOfFraction fraction)

/-! ### Texts -/

/-- The digits of a number, with a sign, and those of its fraction. -/
def numeral? (s : List Char) : Option (Bool × List Char × Option (List Char)) :=
  let (negative, s) := match s with
    | '-' :: rest => (true, rest)
    | '+' :: rest => (false, rest)
    | _ => (false, s)
  let whole := s.takeWhile Char.isDigit
  if whole.isEmpty then none
  else
    match s.dropWhile Char.isDigit with
    | [] => some (negative, whole, none)
    | '.' :: rest =>
      if !rest.isEmpty && rest.all Char.isDigit then some (negative, whole, some rest) else none
    | _ => none

/-- The moment of a number with a fraction, which may count milliseconds. -/
def ofFractional (x : Double) : Except Refusal Moment :=
  let x :=
    if Double.lt (.ofRatio false greatestSeconds 1) x.abs then x.div (.ofRatio false 1000 1) else x
  let whole := x.floor
  let base := Double.ofRatio (whole < 0) whole.natAbs 1
  ofSeconds whole (microOfFraction (x.sub base))

/-- The moment of a number in decimal digits, if the text is such a number. -/
def ofNumeral? (s : List Char) : Option (Except Refusal Moment) := do
  let (negative, whole, fraction) ← numeral? s
  match fraction with
  | none =>
    let n : Int := if negative then -(Digits.value whole : Int) else Digits.value whole
    -- An integer beyond a signed word is not taken for a number.
    if clampToWord n = n then return ofCount n 0 else none
  | some fraction =>
    return ofFractional (.ofDecimal negative (Digits.value (whole ++ fraction)) (-fraction.length))

/-- A day as it is written. -/
structure WrittenDay where
  year : Nat
  month : Nat
  day : Nat

/-- The digits at a place of a text. -/
def digitsAt (s : List Char) (start count : Nat) : Option Nat :=
  (digits? count (s.drop start)).map Prod.fst

/-- Reads the day with which a text begins, or says what is wrong with it. -/
def writtenDay (s : List Char) : Except String WrittenDay := do
  if (String.ofList s).utf8ByteSize < 10 then throw "input is too short"
  let some year := digitsAt s 0 4 | throw "invalid character in year"
  if s[4]? ≠ some '-' then throw "invalid date separator, expected \x60-\x60"
  let some month := digitsAt s 5 2 | throw "invalid character in month"
  if s[7]? ≠ some '-' then throw "invalid date separator, expected \x60-\x60"
  let some day := digitsAt s 8 2 | throw "invalid character in day"
  if month < 1 ∨ 12 < month then throw "month value is outside expected range of 1-12"
  if day < 1 ∨ Date.daysInMonth year month < day then throw "day value is outside expected range"
  return ⟨year, month, day⟩

/-- The moment of a written day and a time of day. -/
def ofWritten (d : WrittenDay) (time : TimeOfDay) (offset : Option Int) : Except Refusal Moment :=
  match Date.of? d.year d.month d.day with
  | some date => .ok ⟨date, time, offset, none⟩
  | none => .error yearZero

/-- Reads a time of day of hours, minutes and, optionally, seconds with a fraction. -/
def writtenTime? (s : List Char) : Option (TimeOfDay × List Char) := do
  let (hour, rest) ← digits? 2 s
  let ':' :: rest := rest | none
  let (minute, rest) ← digits? 2 rest
  match rest with
  | ':' :: rest =>
    let (second, rest) ← digits? 2 rest
    let (fraction, rest) ← match rest with
      | '.' :: rest | ',' :: rest =>
        let fraction := rest.takeWhile Char.isDigit
        if fraction.isEmpty then none else some (fraction, rest.dropWhile Char.isDigit)
      | _ => some ([], rest)
    return (← TimeOfDay.of? hour minute second (microOfDigits fraction), rest)
  | _ => return (← TimeOfDay.of? hour minute 0 0, rest)

/-- Whether a sign in front of an offset is a minus. -/
def offsetSign? (c : Char) : Option Bool :=
  if c = '+' then some false
  else if c = '-' ∨ c = '−' then some true
  else none

/-- Reads an offset of hours and minutes. -/
def writtenOffset? (s : List Char) : Option (Option Int) := do
  match s with
  | [] => return none
  | ['Z'] | ['z'] => return some 0
  | sign :: rest =>
    let negative ← offsetSign? sign
    let (hours, rest) ← digits? 2 rest
    let rest := match rest with
      | ':' :: rest => rest
      | _ => rest
    let (minutes, []) ← digits? 2 rest | none
    if 23 < hours ∨ 59 < minutes then none
    else
      let seconds : Int := hours * 3600 + minutes * 60
      return some (if negative then -seconds else seconds)

/-- Reads what follows the day of a moment. -/
def writtenClock? (s : List Char) : Option (TimeOfDay × Option Int) := do
  let mark :: rest := s | none
  if mark = 'T' ∨ mark = 't' ∨ mark = ' ' ∨ mark = '_' then
    let (time, rest) ← writtenTime? rest
    return (time, ← writtenOffset? rest)
  else none

/-- The moment that a text stands for: a day and a time of day, a number, or a day alone. -/
def ofDocumentText (s : List Char) : Except Refusal Moment :=
  match writtenDay s with
  | .error detail =>
    match ofNumeral? s with
    | some result => result
    | none => .error (.text detail)
  | .ok day =>
    match writtenClock? (s.drop 10) with
    | some (time, offset) => ofWritten day time offset
    | none =>
      if s.length = 10 then ofWritten day .midnight none
      else .error (.text "unexpected extra characters at the end of the input")

end FeatureFlags.Moment
