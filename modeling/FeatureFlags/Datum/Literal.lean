import FeatureFlags.Datum.Basic
import FeatureFlags.Number.Shortest
import FeatureFlags.Text.Quoted

/-! Literal text of loose data, as messages quote a value that was refused.
-/

namespace FeatureFlags.Datum

/-- Numbers in messages are positional as long as the point stands within sixteen digits and three
zeros. -/
def literalStyle : Double.Style := ⟨-3, 16, "inf", "nan"⟩

/-- Numbers of a literal, separated by commas, without zero seconds and microseconds at the end. -/
def clockParts (leading : List Nat) (time : TimeOfDay) : String :=
  let parts := leading ++ [time.hour, time.minute] ++
    (if time.micro ≠ 0 then [time.second, time.micro]
      else if time.second ≠ 0 then [time.second] else [])
  ", ".intercalate (parts.map toString)

def offsetLiteral (offset : Int) : String :=
  if offset = 0 then "datetime.timezone.utc"
  else
    let days := offset.fdiv 86400
    let seconds := offset - days * 86400
    let parts := (if days = 0 then [] else ["days=" ++ toString days]) ++
      (if seconds = 0 then [] else ["seconds=" ++ toString seconds])
    "datetime.timezone(datetime.timedelta(" ++ ", ".intercalate parts ++ "))"

/-- The end of the literal of a moment: where its offset comes from. -/
def zoneLiteral (m : Moment) : String :=
  match m.clock with
  | some clock =>
    (if clock.again then ", fold=1" else "") ++ ", tzinfo=zoneinfo.ZoneInfo(key=" ++
      Quoted.quote clock.name ++ ")"
  | none => (m.offset.map fun offset => ", tzinfo=" ++ offsetLiteral offset).getD ""

def momentLiteral (m : Moment) : String :=
  "datetime.datetime(" ++ clockParts [m.date.year, m.date.month, m.date.day] m.time ++
    zoneLiteral m ++ ")"

def dateLiteral (d : Date) : String :=
  "datetime.date(" ++ ", ".intercalate ([d.year, d.month, d.day].map toString) ++ ")"

mutual

/-- The literal text of a value. -/
def literal : Datum → String
  | null => "None"
  | bool b => if b then "True" else "False"
  | int n => toString n
  | double x => literalStyle.text x
  | text s => Quoted.quote s
  | list items => "[" ++ ", ".intercalate (literals items) ++ "]"
  | tuple [x] => "(" ++ literal x ++ ",)"
  | tuple items => "(" ++ ", ".intercalate (literals items) ++ ")"
  | set [] => "set()"
  | set items => "\x7b" ++ ", ".intercalate (literals items) ++ "\x7d"
  | record entries => "\x7b" ++ ", ".intercalate (entryLiterals entries) ++ "\x7d"
  | moment m => momentLiteral m
  | date d => dateLiteral d
  | time t => "datetime.time(" ++ clockParts [] t ++ ")"

def literals : List Datum → List String
  | [] => []
  | x :: rest => literal x :: literals rest

def entryLiterals : List (String × Datum) → List String
  | [] => []
  | (name, value) :: rest => (Quoted.quote name ++ ": " ++ literal value) :: entryLiterals rest

end

/-- The text of a value in a message that shows texts without quotes. -/
def display : Datum → String
  | text s => s
  | moment m => m.date.iso ++ " " ++ m.time.iso ++ (m.offset.map Moment.offsetText).getD ""
  | date d => d.iso
  | time t => t.iso
  | x => x.literal

end FeatureFlags.Datum
