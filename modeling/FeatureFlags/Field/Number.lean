import FeatureFlags.Field.Checked
import FeatureFlags.Text.Digits
import FeatureFlags.Unicode.Decimal

/-! Reading integers and truth values of documents. Values of another kind are accepted where they
leave no doubt: doubles without a fraction, digits in a text, words such as `yes`.
-/

namespace FeatureFlags.Field

open Issue (Problem)

/-! ### Integers -/

/-- Digits with single underscores between them. -/
def underscored? : List Char → Option (List Char)
  | [] => none
  | [c] => if c.isDigit then some [c] else none
  | c :: '_' :: rest => if c.isDigit then (underscored? rest).map (c :: ·) else none
  | c :: rest => if c.isDigit then (underscored? rest).map (c :: ·) else none

/-- The part of a number in front of a point after which there are only zeros. -/
def withoutZeroFraction? (s : List Char) : Option (List Char) :=
  match s.dropWhile (· ≠ '.') with
  | [] => some s
  | _ :: zeros =>
    if !zeros.isEmpty && zeros.all (· = '0') then some (s.takeWhile (· ≠ '.')) else none

/-- The integer that a text without white space at its ends stands for. -/
def integerOfText? (s : List Char) : Option Int := do
  let (negative, s) := match s with
    | '-' :: rest => (true, rest)
    | '+' :: rest => (false, rest)
    | _ => (false, s)
  let digits ← underscored? (← withoutZeroFraction? s)
  let size : Int := Digits.value digits
  return if negative then -size else size

/-- Longer texts are not read as integers. -/
def greatestLength : Nat := 4300

def textInteger (s : String) : Checked Int :=
  let s := Unicode.trim Unicode.isWhiteSpace s.toList
  if greatestLength < s.length then .issue .hugeInteger
  else
    match integerOfText? s with
    | some n => .ok n
    | none => .issue .unreadableInteger

/-- Doubles of this size and beyond are not read as integers. -/
def wordBound : Nat := Nat.pow 2 63

def doubleInteger (x : Double) : Checked Int :=
  if !x.isFinite then .issue .infinite
  else if !x.isIntegral then .issue .fraction
  -- Doubles this large are integers, but not of a size that is read.
  else if wordBound ≤ x.floor.natAbs then .issue .hugeInteger
  else .ok x.floor

/-- Reads an integer. -/
def integer : Datum → Checked Int
  | .bool b => .ok (if b then 1 else 0)
  | .int n => .ok n
  | .double x => doubleInteger x
  | .text s => textInteger s
  | _ => .issue .notInteger

/-- Reads an integer that is not negative. -/
def count (x : Datum) : Checked Nat :=
  ((integer x).refuseIf fun n => if n < 0 then some (.belowLeast 0) else none).map Int.toNat

/-! ### Truth values -/

/-- The truth value of an integer. -/
def intBool (n : Int) : Checked Bool :=
  if n = 0 then .ok false
  else if n = 1 then .ok true
  else if -(wordBound : Int) ≤ n ∧ n < wordBound then .issue .unreadableBoolean
  else .issue .notBoolean

def trueWords : List String := ["1", "on", "t", "true", "y", "yes"]

def falseWords : List String := ["0", "off", "f", "false", "n", "no"]

def textBool (s : String) : Checked Bool :=
  let s := s.map Char.toLower
  if trueWords.contains s then .ok true
  else if falseWords.contains s then .ok false
  else .issue .unreadableBoolean

/-- Reads a truth value. -/
def boolean : Datum → Checked Bool
  | .bool b => .ok b
  | .int n => intBool n
  | .double x =>
    match doubleInteger x with
    | .ok n => intBool n
    | _ => .issue .notBoolean
  | .text s => textBool s
  | _ => .issue .notBoolean

end FeatureFlags.Field
