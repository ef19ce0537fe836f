import FeatureFlags.Datum.Digits
import FeatureFlags.Text.Quoted

/-! Single values of TOML text: texts, numbers, truth values, days and times. Each reader takes a
value off the front of a text and leaves the rest, or says what is wrong and how much of the text is
left from there on.
-/

namespace FeatureFlags.Toml

/-- What is wrong with a text, and the number of characters from there to its end. -/
structure Stop where
  complaint : String
  remaining : Nat
deriving DecidableEq, Repr

/-- A step of reading. -/
abbrev Step (α : Type) := Except (Unread Stop) α

/-- Reads something off the front of a text. -/
abbrev Reader (α : Type) := List Char → Step (α × List Char)

/-- Something is wrong where so much of the text is left. -/
def complain {α : Type} (complaint : String) (left : List Char) : Step α :=
  .error (.malformed ⟨complaint, left.length⟩)

def isBlank (c : Char) : Bool := c = ' ' || c = '\t'

def isBlankOrNewline (c : Char) : Bool := isBlank c || c = '\n'

/-- Control characters other than the tab. -/
def isControl (c : Char) : Bool := (c.toNat < 32 && c ≠ '\t') || c.toNat = 127

/-- Control characters other than the tab and the line feed. -/
def isControlInLines (c : Char) : Bool := isControl c && c ≠ '\n'

/-- Drops blanks. -/
def skipBlanks (s : List Char) : List Char := s.dropWhile isBlank

/-- Refuses characters of a class in a text with something after it. -/
def refuse (isBad : Char → Bool) (text after : List Char) : Step Unit :=
  match text.dropWhile fun c => !isBad c with
  | [] => .ok ()
  | c :: rest =>
    complain ("Found invalid character " ++ Quoted.quote (String.singleton c))
      (c :: rest ++ after)

/-- Drops a comment up to the end of its line. -/
def skipComment : List Char → Step (List Char)
  | '#' :: rest => do
    let after := rest.dropWhile (· ≠ '\n')
    refuse isControl (rest.takeWhile (· ≠ '\n')) after
    return after
  | s => .ok s

/-- Drops a word. -/
def dropWord (word : String) (s : List Char) : Option (List Char) :=
  if word.toList.isPrefixOf s then some (s.drop word.length) else none

/-- What stands before a word, and the text from there on. -/
def before? (word : List Char) : List Char → Option (List Char × List Char)
  | [] => none
  | c :: rest =>
    if word.isPrefixOf (c :: rest) then some ([], c :: rest)
    else (before? word rest).map fun r => (c :: r.1, r.2)

/-! ### Texts -/

def hexadecimalValue? (c : Char) : Option Nat :=
  if c.isDigit then some (c.toNat - '0'.toNat)
  else if 'a' ≤ c ∧ c ≤ 'f' then some (c.toNat - 'a'.toNat + 10)
  else if 'A' ≤ c ∧ c ≤ 'F' then some (c.toNat - 'A'.toNat + 10)
  else none

/-- A character given by its code point in so many digits to base sixteen. -/
def codePoint (places : Nat) : Reader Char := fun s =>
  match (s.take places).mapM hexadecimalValue? with
  | some digits =>
    let code := digits.foldl (fun n d => 16 * n + d) 0
    if digits.length ≠ places then complain "Invalid hex value" s
    else if code.isValidChar then .ok (Char.ofNat code, s.drop places)
    else complain "Escaped character is not a Unicode scalar value" (s.drop places)
  | none => complain "Invalid hex value" s

/-- The character of an escape of one letter. -/
def escaped? (c : Char) : Option Char :=
  match c with
  | 'b' => some (Char.ofNat 8)
  | 't' => some '\t'
  | 'n' => some '\n'
  | 'f' => some (Char.ofNat 12)
  | 'r' => some '\r'
  | '"' => some '"'
  | '\\' => some '\\'
  | _ => none

/-- A backslash that stands for nothing. -/
def unescaped {α : Type} (left : List Char) : Step α :=
  complain "Unescaped '\\' in a string" left

/-- What a backslash stands for. At the end of a line of a text of several lines it stands for
nothing, together with all white space that follows. -/
def escape (severalLines : Bool) : Reader (List Char) := fun s =>
  match s with
  | 'u' :: rest => (codePoint 4 rest).map fun r => ([r.1], r.2)
  | 'U' :: rest => (codePoint 8 rest).map fun r => ([r.1], r.2)
  | c :: rest =>
    if severalLines && isBlankOrNewline c then
      match skipBlanks s with
      | [] => .ok ([], [])
      | '\n' :: after => .ok ([], after.dropWhile isBlankOrNewline)
      | left => unescaped left
    else
      match escaped? c with
      | some e => .ok ([e], rest)
      | none => unescaped rest
  | [] => unescaped []

def illegal {α : Type} (c : Char) (rest : List Char) : Step α :=
  complain ("Illegal character " ++ Quoted.quote (String.singleton c)) (c :: rest)

/-- The rest of a text in double quotes on one line; `read` is what came before. -/
def quotedRest (read : List Char) : Nat → Reader String
  | 0, s => complain "Unterminated string" s
  | fuel + 1, s =>
    match s with
    | [] => complain "Unterminated string" []
    | '"' :: rest => .ok (String.ofList read, rest)
    | '\\' :: rest => do
      let (c, rest) ← escape false rest
      quotedRest (read ++ c) fuel rest
    | c :: rest => if isControl c then illegal c rest else quotedRest (read ++ [c]) fuel rest

/-- A text with up to two quotes that stand in front of the three closing ones and belong to it. -/
def closingQuotes (quote : Char) (read : List Char) : List Char → String × List Char
  | a :: b :: rest =>
    if a ≠ quote then (String.ofList read, a :: b :: rest)
    else if b ≠ quote then (String.ofList (read ++ [quote]), b :: rest)
    else (String.ofList (read ++ [quote, quote]), rest)
  | [a] =>
    if a = quote then (String.ofList (read ++ [quote]), [])
    else (String.ofList read, [a])
  | [] => (String.ofList read, [])

/-- The rest of a text in three double quotes. -/
def quotedLines (read : List Char) : Nat → Reader String
  | 0, s => complain "Unterminated string" s
  | fuel + 1, s =>
    match s with
    | [] => complain "Unterminated string" []
    | '"' :: '"' :: '"' :: rest => .ok (closingQuotes '"' read rest)
    | '\\' :: rest => do
      let (c, rest) ← escape true rest
      quotedLines (read ++ c) fuel rest
    | c :: rest =>
      if isControlInLines c then illegal c rest else quotedLines (read ++ [c]) fuel rest

/-- The rest of a text that is taken literally: all up to the closing quotes. -/
def literalRest (closing : String) (isBad : Char → Bool) : Reader (List Char) := fun s =>
  match before? closing.toList s with
  | none => complain ("Expected " ++ Quoted.quote closing) []
  | some (text, left) => do
    refuse isBad text left
    return (text, left.drop closing.length)

/-- A line feed right after the opening quotes does not count. -/
def skipNewline : List Char → List Char
  | '\n' :: rest => rest
  | s => s

/-- A text in double quotes on one line, behind its opening quote. -/
def quoted : Reader String := fun rest => quotedRest [] (rest.length + 1) rest

/-- A text in single quotes on one line, behind its opening quote. -/
def literal : Reader String := fun rest =>
  (literalRest "'" isControl rest).map fun r => (String.ofList r.1, r.2)

/-- A text in three single quotes, behind the opening ones. -/
def literalLines : Reader String := fun rest =>
  (literalRest "'''" isControlInLines (skipNewline rest)).map fun r => closingQuotes '\'' r.1 r.2

/-- A text of any form, if the next character is a quote. -/
def text? (s : List Char) : Option (Step (String × List Char)) :=
  match s with
  | '"' :: '"' :: '"' :: rest => some (quotedLines [] (rest.length + 1) (skipNewline rest))
  | '\'' :: '\'' :: '\'' :: rest => some (literalLines rest)
  | '"' :: rest => some (quoted rest)
  | '\'' :: rest => some (literal rest)
  | _ => none

/-! ### Numbers -/

/-- Digits of a class with single underscores between them, as many as there are. -/
def digitRun (isDigit : Char → Bool) : List Char → List Char × List Char
  | '_' :: c :: rest =>
    if isDigit c then
      let (digits, rest) := digitRun isDigit rest
      (c :: digits, rest)
    else ([], '_' :: c :: rest)
  | c :: rest =>
    if isDigit c then
      let (digits, rest) := digitRun isDigit rest
      (c :: digits, rest)
    else ([], c :: rest)
  | [] => ([], [])

/-- At least one digit of a class, with single underscores between digits. -/
def digits? (isDigit : Char → Bool) : List Char → Option (List Char × List Char)
  | c :: rest =>
    if isDigit c then
      let (digits, rest) := digitRun isDigit rest
      some (c :: digits, rest)
    else none
  | [] => none

def numeral (base : Nat) (digits : List Char) : Nat :=
  digits.foldl (fun n c => base * n + (hexadecimalValue? c).getD 0) 0

/-- An integer to another base than ten. -/
def basedInteger? (s : List Char) : Option (Nat × List Char) := do
  let '0' :: letter :: rest := s | none
  let base ← match letter with
    | 'x' => some 16
    | 'o' => some 8
    | 'b' => some 2
    | _ => none
  let (digits, rest) ← digits? (fun c => (hexadecimalValue? c).any (· < base)) rest
  return (numeral base digits, rest)

/-- A sign, if there is one. -/
def sign (s : List Char) : Bool × List Char :=
  match s with
  | '-' :: rest => (true, rest)
  | '+' :: rest => (false, rest)
  | _ => (false, s)

/-- The digits in front of a point: zero, or some that do not begin with zero. -/
def whole? (s : List Char) : Option (List Char × List Char) :=
  match s with
  | '0' :: rest => some (['0'], rest)
  | _ => digits? Char.isDigit s

/-- The digits after a point, if there are any. -/
def fraction (s : List Char) : List Char × List Char :=
  match s with
  | '.' :: rest => (digits? Char.isDigit rest).getD ([], s)
  | _ => ([], s)

/-- An exponent of ten, if there is one. -/
def exponent? (s : List Char) : Option (Int × List Char) := do
  let mark :: rest := s | none
  if mark = 'e' ∨ mark = 'E' then
    let (negative, rest) := sign rest
    let (digits, rest) ← digits? Char.isDigit rest
    let n : Int := numeral 10 digits
    return (if negative then -n else n, rest)
  else none

/-- An integer to base ten, or a number with a fraction or an exponent. -/
def decimal? (s : List Char) : Option (Step (Datum × List Char)) := do
  let (negative, rest) := sign s
  let (whole, rest) ← whole? rest
  let (fraction, afterFraction) := fraction rest
  match fraction, exponent? afterFraction with
  | [], none => return (Datum.ofDigits negative whole).map fun n => (n, afterFraction)
  | _, found =>
    let (exponent, after) := found.getD (0, afterFraction)
    return .ok (.double (.ofDecimal negative (numeral 10 (whole ++ fraction))
      (exponent - fraction.length)), after)

/-- A constant that is no decimal number. -/
def special? (s : List Char) : Option (Datum × List Char) :=
  let (negative, rest) := sign s
  match dropWord "inf" rest, dropWord "nan" rest with
  | some rest, _ => some (.double (.infinity negative), rest)
  | none, some rest =>
    some (.double (if negative then Double.nan.neg else Double.nan), rest)
  | none, none => none

/-! ### Days and times -/

/-- A time of day with seconds and, optionally, a fraction. -/
def time? (s : List Char) : Option (TimeOfDay × List Char) := do
  let (hour, rest) ← Moment.digits? 2 s
  let ':' :: rest := rest | none
  let (minute, rest) ← Moment.digits? 2 rest
  let ':' :: rest := rest | none
  let (second, rest) ← Moment.digits? 2 rest
  let (fraction, rest) := match rest with
    | '.' :: after =>
      if (after.takeWhile Char.isDigit).isEmpty then ([], rest)
      else (after.takeWhile Char.isDigit, after.dropWhile Char.isDigit)
    | _ => ([], rest)
  return (← TimeOfDay.of? hour minute second (Moment.microOfDigits fraction), rest)

/-- The offset of a moment, if there is one. -/
def offset (s : List Char) : Option Int × List Char :=
  match s with
  | 'Z' :: rest | 'z' :: rest => (some 0, rest)
  | mark :: rest =>
    let found := do
      let (hours, rest) ← Moment.digits? 2 rest
      let ':' :: rest := rest | none
      let (minutes, rest) ← Moment.digits? 2 rest
      if (mark = '+' ∨ mark = '-') ∧ hours < 24 ∧ minutes < 60 then
        let seconds : Int := hours * 3600 + minutes * 60
        some (if mark = '-' then -seconds else seconds, rest)
      else none
    match found with
    | some (seconds, rest) => (some seconds, rest)
    | none => (none, s)
  | [] => (none, s)

/-- Whether a text begins with a day, in whatever year and month it is. -/
def looksLikeDay (s : List Char) : Bool :=
  ((Moment.digits? 4 s).bind fun year =>
    match year.2 with
    | '-' :: rest => (Moment.digits? 2 rest).bind fun month =>
      match month.2 with
      | '-' :: rest =>
        (Moment.digits? 2 rest).filter fun day =>
          1 ≤ month.1 && month.1 ≤ 12 && 1 ≤ day.1 && day.1 ≤ 31
      | _ => none
    | _ => none).isSome

/-- A day, or a day and a time of day with whatever may stand for an offset. -/
def momentOn (date : Date) (rest : List Char) : Datum × List Char :=
  match rest with
  | mark :: after =>
    if mark = 'T' ∨ mark = 't' ∨ mark = ' ' then
      match time? after with
      | some (time, rest) =>
        let (offset, rest) := offset rest
        (.moment ⟨date, time, offset, none⟩, rest)
      | none => (.date date, rest)
    else (.date date, rest)
  | [] => (.date date, [])

/-- A day, or a day and a time of day. -/
def moment : Reader Datum := fun s =>
  match Moment.day? s with
  | some (date, rest) => .ok (momentOn date rest)
  | none => complain "Invalid date or datetime" s

/-- A number or a time of day. -/
def number : Reader Datum := fun s =>
  match time? s, basedInteger? s with
  | some (time, rest), _ => .ok (.time time, rest)
  | none, some (n, rest) => .ok (.int n, rest)
  | none, none => (decimal? s).getD ((special? s).elim (complain "Invalid value" s) .ok)

/-- A value that is neither an array nor a table. -/
def scalar : Reader Datum := fun s =>
  match text? s with
  | some read => read.map fun r => (.text r.1, r.2)
  | none =>
    match dropWord "true" s, dropWord "false" s with
    | some rest, _ => .ok (.bool true, rest)
    | none, some rest => .ok (.bool false, rest)
    | none, none => if looksLikeDay s then moment s else number s

end FeatureFlags.Toml
