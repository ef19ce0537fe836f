import FeatureFlags.Datum.Digits
import FeatureFlags.Text.Place

/-! Reading JSON text. Besides standard JSON the three constants for numbers that have no decimal
form are accepted. The first fault is reported with its line, its column and the number of
characters before it; within the reader a place is the number of characters that are still left. An
integer with too many digits ends the reading as well, but it is no fault of the text.
-/

namespace FeatureFlags.Json

/-- Why a text is not JSON. -/
inductive Reason where
  | expectingValue
  | expectingName
  | expectingColon
  | expectingComma
  | extraData
  | unterminatedText
  | controlCharacter
  | invalidEscape
  | invalidCodeEscape
  | unpairedSurrogate
  | byteOrderMark
deriving DecidableEq, Repr

def Reason.text : Reason → String
  | .expectingValue => "Expecting value"
  | .expectingName => "Expecting property name enclosed in double quotes"
  | .expectingColon => "Expecting ':' delimiter"
  | .expectingComma => "Expecting ',' delimiter"
  | .extraData => "Extra data"
  | .unterminatedText => "Unterminated string starting at"
  | .controlCharacter => "Invalid control character at"
  | .invalidEscape => "Invalid \\escape"
  | .invalidCodeEscape => "Invalid \\uXXXX escape"
  | .unpairedSurrogate => "Unpaired surrogate"
  | .byteOrderMark => "Unexpected UTF-8 BOM (decode using utf-8-sig)"

/-- A fault and the number of characters from its place to the end of the text. -/
structure Stop where
  reason : Reason
  remaining : Nat
deriving DecidableEq, Repr

/-- The first fault of a text. -/
structure Fault where
  reason : Reason
  /-- Counted from 1. -/
  line : Nat
  /-- Counted from 1. -/
  column : Nat
  /-- The number of characters before the fault. -/
  position : Nat
deriving DecidableEq, Repr

def Fault.message (f : Fault) : String :=
  f.reason.text ++ ": line " ++ toString f.line ++ " column " ++ toString f.column ++
    " (char " ++ toString f.position ++ ")"

/-- Finds line and column of a place in a text. -/
def Stop.locate (stop : Stop) (text : List Char) : Fault :=
  let position := text.length - stop.remaining
  let before := text.take position
  { reason := stop.reason
    line := Text.lineAfter before
    column := Text.columnAfter before
    position }

/-- A step of reading. -/
abbrev Step (α : Type) := Except (Unread Stop) α

/-- Something is wrong where so many characters of the text are left. -/
def stop {α : Type} (reason : Reason) (remaining : Nat) : Step α :=
  .error (.malformed ⟨reason, remaining⟩)

def isSpace (c : Char) : Bool := c = ' ' || c = '\t' || c = '\n' || c = '\r'

def skipSpace (s : List Char) : List Char := s.dropWhile isSpace

def hexDigit? (c : Char) : Option Nat :=
  if c.isDigit then some (c.toNat - '0'.toNat)
  else if 'a' ≤ c ∧ c ≤ 'f' then some (c.toNat - 'a'.toNat + 10)
  else if 'A' ≤ c ∧ c ≤ 'F' then some (c.toNat - 'A'.toNat + 10)
  else none

/-- The value of digits to base sixteen. -/
def hexValue? (digits : List Char) : Option Nat :=
  digits.foldlM (fun n c => (hexDigit? c).map (16 * n + ·)) 0

/-- The character of an escape of one letter. -/
def shortEscape? : Char → Option Char
  | '"' => some '"'
  | '\\' => some '\\'
  | '/' => some '/'
  | 'b' => some '\x08'
  | 'f' => some '\x0c'
  | 'n' => some '\n'
  | 'r' => some '\r'
  | 't' => some '\t'
  | _ => none

def isHighSurrogate (n : Nat) : Bool := 0xD800 ≤ n && n < 0xDC00

def isLowSurrogate (n : Nat) : Bool := 0xDC00 ≤ n && n < 0xE000

/-- The code point of a pair of surrogates. -/
def joinSurrogates (high low : Nat) : Nat := 0x10000 + (high - 0xD800) * 0x400 + (low - 0xDC00)

/-- A code point as a character, where so many characters of the text are left. Half of a pair of surrogates
is none, and texts do not hold it. -/
def charOfCode (remaining n : Nat) : Step Char :=
  if n.isValidChar then .ok (Char.ofNat n) else stop .unpairedSurrogate remaining

/-- Reads a text up to its closing quote; `opened` is what was left at the opening one. -/
def textBody (opened : Nat) : List Char → Step (List Char × List Char)
  | [] => stop .unterminatedText opened
  | '"' :: rest => .ok ([], rest)
  | '\\' :: 'u' :: a :: b :: c :: d :: rest =>
    match hexValue? [a, b, c, d], rest with
    | none, _ => stop .invalidCodeEscape (rest.length + 5)
    -- An escape must not be the last thing in the text.
    | some _, [] => stop .invalidCodeEscape 5
    | some high, '\\' :: 'u' :: e :: f :: g :: h :: next :: rest' =>
      if isHighSurrogate high then
        match hexValue? [e, f, g, h] with
        | none => stop .invalidCodeEscape (rest'.length + 6)
        | some low =>
          if isLowSurrogate low then do
            let (chars, left) ← textBody opened (next :: rest')
            return ((← charOfCode (rest'.length + 12) (joinSurrogates high low)) :: chars, left)
          else do
            let (chars, left) ← textBody opened ('\\' :: 'u' :: e :: f :: g :: h :: next :: rest')
            return ((← charOfCode (rest'.length + 12) high) :: chars, left)
      else do
        let (chars, left) ← textBody opened ('\\' :: 'u' :: e :: f :: g :: h :: next :: rest')
        return ((← charOfCode (rest'.length + 12) high) :: chars, left)
    | some code, next :: rest' => do
      let (chars, left) ← textBody opened (next :: rest')
      return ((← charOfCode (rest'.length + 6) code) :: chars, left)
  | '\\' :: 'u' :: rest => stop .invalidCodeEscape (rest.length + 1)
  | ['\\'] => stop .unterminatedText opened
  | '\\' :: c :: rest =>
    match shortEscape? c with
    | none => stop .invalidEscape (rest.length + 2)
    | some e => do
      let (chars, left) ← textBody opened rest
      return (e :: chars, left)
  | c :: rest =>
    if c.toNat < 0x20 then stop .controlCharacter (rest.length + 1)
    else do
      let (chars, left) ← textBody opened rest
      return (c :: chars, left)

/-- Splits off digits. -/
def spanDigits (s : List Char) : List Char × List Char :=
  (s.takeWhile Char.isDigit, s.dropWhile Char.isDigit)

/-- The digits of a fraction, if a point with a digit after it comes next. -/
def fractionPart : List Char → Option (List Char × List Char)
  | '.' :: d :: rest => if d.isDigit then some (spanDigits (d :: rest)) else none
  | _ => none

/-- The value of an exponent, if one with a digit comes next. -/
def exponentPart : List Char → Option (Int × List Char)
  | mark :: rest =>
    if mark = 'e' ∨ mark = 'E' then
      let (negative, rest) :=
        match rest with
        | '-' :: rest => (true, rest)
        | '+' :: rest => (false, rest)
        | rest => (false, rest)
      let (digits, rest) := spanDigits rest
      if digits.isEmpty then none
      else
        let size : Int := Digits.value digits
        some (if negative then -size else size, rest)
    else none
  | [] => none

/-- The digits in front of a point, if a digit comes next: a zero alone, or all digits. -/
def wholePart : List Char → Option (List Char × List Char)
  | '0' :: rest => some (['0'], rest)
  | c :: rest => if c.isDigit then some (spanDigits (c :: rest)) else none
  | [] => none

/-- Reads a number without its sign: an integer unless it has a fraction or an exponent. -/
def unsigned? (negative : Bool) (s : List Char) : Option (Step (Datum × List Char)) :=
  (wholePart s).map fun (whole, rest) =>
    let fraction := fractionPart rest
    let (places, rest) := fraction.getD ([], rest)
    let power := exponentPart rest
    let (exponent, rest) := power.getD (0, rest)
    if fraction.isNone && power.isNone then
      (Datum.ofDigits negative whole).map fun n => (n, rest)
    else
      .ok (.double (.ofDecimal negative (Digits.value (whole ++ places))
        (exponent - places.length)), rest)

/-- Reads a constant or a number. -/
def scalar? : List Char → Option (Step (Datum × List Char))
  | 'n' :: 'u' :: 'l' :: 'l' :: rest => some (.ok (.null, rest))
  | 't' :: 'r' :: 'u' :: 'e' :: rest => some (.ok (.bool true, rest))
  | 'f' :: 'a' :: 'l' :: 's' :: 'e' :: rest => some (.ok (.bool false, rest))
  | 'N' :: 'a' :: 'N' :: rest => some (.ok (.double .nan, rest))
  | 'I' :: 'n' :: 'f' :: 'i' :: 'n' :: 'i' :: 't' :: 'y' :: rest =>
    some (.ok (.double (.infinity false), rest))
  | '-' :: 'I' :: 'n' :: 'f' :: 'i' :: 'n' :: 'i' :: 't' :: 'y' :: rest =>
    some (.ok (.double (.infinity true), rest))
  | '-' :: rest => unsigned? true rest
  | s => unsigned? false s

mutual

/-- Reads a value that begins with the next character. Every level of nesting takes at least one
character, so that `fuel` greater than the length of the text never runs out. -/
def value (fuel : Nat) (s : List Char) : Step (Datum × List Char) :=
  match fuel, s with
  | 0, s => stop .expectingValue s.length
  | _ + 1, '"' :: rest => do
    let (chars, left) ← textBody s.length rest
    return (.text (String.ofList chars), left)
  | fuel + 1, '[' :: rest =>
    match skipSpace rest with
    | ']' :: left => .ok (.list [], left)
    | rest => do
      let (items, left) ← items fuel rest
      return (.list items, left)
  | fuel + 1, '\x7b' :: rest =>
    match skipSpace rest with
    | '\x7d' :: left => .ok (.record [], left)
    | rest => do
      let (entries, left) ← entries fuel rest
      return (.record (Datum.distinctEntries entries), left)
  | _ + 1, s =>
    match scalar? s with
    | some found => found
    | none => stop .expectingValue s.length

/-- Reads the items of a list up to its end. -/
def items (fuel : Nat) (s : List Char) : Step (List Datum × List Char) :=
  match fuel with
  | 0 => stop .expectingValue s.length
  | fuel + 1 => do
    let (first, rest) ← value fuel s
    match skipSpace rest with
    | ']' :: left => return ([first], left)
    | ',' :: rest =>
      let (more, left) ← items fuel (skipSpace rest)
      return (first :: more, left)
    | rest => stop .expectingComma rest.length

/-- Reads the entries of a record up to its end. -/
def entries (fuel : Nat) (s : List Char) : Step (List (String × Datum) × List Char) :=
  match fuel, s with
  | fuel + 1, '"' :: rest => do
    let (name, rest) ← textBody s.length rest
    match skipSpace rest with
    | ':' :: rest =>
      let (first, rest) ← value fuel (skipSpace rest)
      let entry := (String.ofList name, first)
      match skipSpace rest with
      | '\x7d' :: left => return ([entry], left)
      | ',' :: rest =>
        let (more, left) ← entries fuel (skipSpace rest)
        return (entry :: more, left)
      | rest => stop .expectingComma rest.length
    | rest => stop .expectingColon rest.length
  | _, s => stop .expectingName s.length

end

/-- Reads a text that holds one value and white space around it. -/
def document (s : List Char) : Step Datum :=
  if s.head? = some (Char.ofNat 0xFEFF) then stop .byteOrderMark s.length
  else do
    let (found, rest) ← value (s.length + 1) (skipSpace s)
    match skipSpace rest with
    | [] => return found
    | rest => stop .extraData rest.length

/-- The value that a JSON text holds. -/
def read (text : List Char) : Except (Unread Fault) Datum :=
  (document text).mapError fun unread => unread.map fun stop => stop.locate text

end FeatureFlags.Json
