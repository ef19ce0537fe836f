import FeatureFlags.Calendar.Moment

/-! Text of moments after a pattern, in which a percent sign and a letter stand for a part of the
moment. Letters that stand for nothing stay as they are.
-/

namespace FeatureFlags

namespace Date

def monthNames : List String :=
  ["January", "February", "March", "April", "May", "June", "July", "August", "September",
    "October", "November", "December"]

/-- The names of the days of a week, from the one with which the calendar begins. -/
def dayNames : List String :=
  ["Monday", "Tuesday", "Wednesday", "Thursday", "Friday", "Saturday", "Sunday"]

def monthName (d : Date) : String := monthNames.getD (d.month - 1) ""

def dayName (d : Date) : String := dayNames.getD (d.ordinal % 7) ""

/-- The place of the day in its year, counted from one. -/
def dayOfYear (d : Date) : Nat :=
  (List.range (d.month - 1)).foldl (fun days m => days + daysInMonth d.year (m + 1)) 0 + d.day

end Date

/-- The first three letters of a name. -/
def abbreviated (name : String) : String := String.ofList (name.toList.take 3)

/-- A number with a blank in front of a single digit. -/
def blankPadded (n : Nat) : String := (if n < 10 then " " else "") ++ toString n

namespace TimeOfDay

/-- The hour on a clock face. -/
def faceHour (t : TimeOfDay) : Nat := if t.hour % 12 = 0 then 12 else t.hour % 12

def halfName (t : TimeOfDay) : String := if t.hour < 12 then "AM" else "PM"

/-- Text such as `09:05`. -/
def hourMinute (t : TimeOfDay) : String := padded 2 t.hour ++ ":" ++ padded 2 t.minute

/-- Text such as `09:05:00`. -/
def whole (t : TimeOfDay) : String := t.hourMinute ++ ":" ++ padded 2 t.second

end TimeOfDay

namespace Moment

/-- The part of a moment for which a letter stands. -/
def part? (m : Moment) : Char → Option String
  | 'Y' => some (toString m.date.year)
  | 'C' => some (padded 2 (m.date.year / 100))
  | 'y' => some (padded 2 (m.date.year % 100))
  | 'm' => some (padded 2 m.date.month)
  | 'd' => some (padded 2 m.date.day)
  | 'e' => some (blankPadded m.date.day)
  | 'j' => some (padded 3 m.date.dayOfYear)
  | 'B' => some m.date.monthName
  | 'b' | 'h' => some (abbreviated m.date.monthName)
  | 'A' => some m.date.dayName
  | 'a' => some (abbreviated m.date.dayName)
  | 'u' => some (toString (m.date.ordinal % 7 + 1))
  | 'w' => some (toString ((m.date.ordinal + 1) % 7))
  | 'H' => some (padded 2 m.time.hour)
  | 'k' => some (blankPadded m.time.hour)
  | 'I' => some (padded 2 m.time.faceHour)
  | 'l' => some (blankPadded m.time.faceHour)
  | 'M' => some (padded 2 m.time.minute)
  | 'S' => some (padded 2 m.time.second)
  | 'p' => some m.time.halfName
  | 'F' => some (toString m.date.year ++ "-" ++ padded 2 m.date.month ++ "-" ++ padded 2 m.date.day)
  | 'T' | 'X' => some m.time.whole
  | 'R' => some m.time.hourMinute
  | 'r' =>
    some (padded 2 m.time.faceHour ++ ":" ++ padded 2 m.time.minute ++ ":" ++
      padded 2 m.time.second ++ " " ++ m.time.halfName)
  | 'D' | 'x' =>
    some (padded 2 m.date.month ++ "/" ++ padded 2 m.date.day ++ "/" ++
      padded 2 (m.date.year % 100))
  | 'c' =>
    some (abbreviated m.date.dayName ++ " " ++ abbreviated m.date.monthName ++ " " ++
      blankPadded m.date.day ++ " " ++ m.time.whole ++ " " ++ toString m.date.year)
  | 's' => some (toString (m.instant / 1000000))
  | 'n' => some "\n"
  | 't' => some "\t"
  | 'Z' => some "UTC"
  | 'z' => some "+0000"
  | '%' => some "%"
  | _ => none

/-- The text of a moment in universal time after a pattern. -/
def stamp (m : Moment) : List Char → List Char
  | '%' :: c :: rest =>
    match m.part? c with
    | some s => s.toList ++ stamp m rest
    | none => '%' :: c :: stamp m rest
  | c :: rest => c :: stamp m rest
  | [] => []

end Moment

end FeatureFlags
