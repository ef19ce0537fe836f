import FeatureFlags.Datum.Literal
import FeatureFlags.Failure
import FeatureFlags.Number.Fixed

/-! Templates: texts with slots that begin with a percent sign. A slot names its value or takes the
next one, and says how it is written: its flags, the width of its field, a precision and a letter.
What is wrong with a slot shows when it is filled, so that the first fault in the text is the one
that is reported.
-/

namespace FeatureFlags.Log

namespace Slot

/-- Where the value of a slot comes from. -/
inductive Source where
  | next
  | named (name : String)
  /-- The name has no end. -/
  | unclosed
deriving DecidableEq, Repr

/-- A width or a precision. -/
inductive Size where
  | unset
  | given (n : Nat)
  /-- The next value is the size. -/
  | next
deriving DecidableEq, Repr

end Slot

/-- A place in a template that is filled with a value. -/
structure Slot where
  source : Slot.Source
  flags : List Char
  width : Slot.Size
  precision : Slot.Size
  /-- How the value is written; it is missing if the template ends before it. -/
  letter : Option Char
  /-- The place of the letter in the template. -/
  place : Nat
deriving DecidableEq, Repr

/-- A part of a template. -/
inductive Piece where
  | plain (c : Char)
  | slot (s : Slot)
deriving DecidableEq, Repr

namespace Slot

/-- The characters up to the bracket that closes `depth` open ones. -/
def nameChars? (depth : Nat) : List Char → Option (List Char)
  | [] => none
  | ')' :: rest =>
    match depth with
    | 0 | 1 => some []
    | depth + 1 => (nameChars? depth rest).map (')' :: ·)
  | '(' :: rest => (nameChars? (depth + 1) rest).map ('(' :: ·)
  | c :: rest => (nameChars? depth rest).map (c :: ·)

/-- Reads where the value comes from, and how many characters say so. -/
def readSource : List Char → Source × Nat
  | '(' :: rest =>
    match nameChars? 1 rest with
    | some name => (.named (String.ofList name), name.length + 2)
    | none => (.unclosed, rest.length + 1)
  | _ => (.next, 0)

/-- Reads a size, and how many characters give it. -/
def readSize (s : List Char) : Size × Nat :=
  match s with
  | '*' :: _ => (.next, 1)
  | _ =>
    let digits := s.takeWhile Char.isDigit
    if digits.isEmpty then (.unset, 0)
    else (.given (Digits.value digits), digits.length)

/-- Reads a precision with its point, and how many characters give it. -/
def readPrecision : List Char → Size × Nat
  | '.' :: rest =>
    match readSize rest with
    | (.unset, _) => (.given 0, 1)
    | (size, count) => (size, count + 1)
  | _ => (.unset, 0)

/-- The length of a mark for the size of numbers, which means nothing. -/
def sizeMark : List Char → Nat
  | c :: _ => if ['h', 'l', 'L'].contains c then 1 else 0
  | [] => 0

/-- Reads a slot after its percent sign, which stands at `start`, and how many characters it has. -/
def read (start : Nat) (s : List Char) : Slot × Nat :=
  let (source, n₁) := readSource s
  let flags := (s.drop n₁).takeWhile ['-', '+', ' ', '#', '0'].contains
  let n₂ := n₁ + flags.length
  let (width, k) := readSize (s.drop n₂)
  let n₃ := n₂ + k
  let (precision, k) := readPrecision (s.drop n₃)
  let n₄ := n₃ + k
  let n₅ := n₄ + sizeMark (s.drop n₄)
  (⟨source, flags, width, precision, (s.drop n₅).head?, start + 1 + n₅⟩, n₅ + 1)

end Slot

/-- The pieces of a template of which `start` characters have been read. Two percent signs stand for
one. -/
def Piece.split (start : Nat) : List Char → List Piece
  | [] => []
  | '%' :: '%' :: rest => .plain '%' :: split (start + 2) rest
  | '%' :: rest =>
    let (place, count) := Slot.read start rest
    .slot place :: split (start + 1 + count) (rest.drop count)
  | c :: rest => .plain c :: split (start + 1) rest
termination_by s => s.length
decreasing_by all_goals (simp only [List.length_drop, List.length_cons]; omega)

/-- The values for a template. -/
structure Supply where
  /-- The values that have names. -/
  named : Option (List (String × Datum))
  /-- The values that are taken in turn. -/
  rest : List Datum

/-- A computation that takes values. -/
abbrev Filling := StateT Supply (Except Failure)

namespace Filling

def fail {α : Type} (e : Failure) : Filling α := throw e

/-- Takes the next value. -/
def next : Filling Datum := do
  let supply ← get
  match supply.rest with
  | x :: rest =>
    set { supply with rest }
    return x
  | [] => fail (.wrongKind "not enough arguments for format string")

/-- Goes to the value of a slot. -/
def seek : Slot.Source → Filling Unit
  | .next => return
  | .unclosed => do
    if (← get).named.isNone then fail (.wrongKind "format requires a mapping")
    else fail (.wrongValue "incomplete format key")
  | .named name => do
    match (← get).named with
    | none => fail (.wrongKind "format requires a mapping")
    | some entries =>
      match entries.lookup name with
      -- The value by that name is from now on the only one to be taken in turn.
      | some x => set ({ named := some entries, rest := [x] } : Supply)
      | none => fail (.unknownName name)

/-- What sizes of a kind are called, and where they end. -/
structure Bound where
  name : String
  greatest : Int
  word : String

def widthBound : Bound := ⟨"width", Nat.pow 2 63 - 1, "C ssize_t"⟩

def precisionBound : Bound := ⟨"precision", Nat.pow 2 31 - 1, "C int"⟩

/-- The size that a slot asks for. -/
def size (bound : Bound) : Slot.Size → Filling (Option Int)
  | .unset => return none
  | .given n =>
    if bound.greatest < n then fail (.wrongValue (bound.name ++ " too big")) else return some n
  | .next => do
    match ← next with
    | .int n =>
      if bound.greatest < n ∨ n < -bound.greatest - 1 then
        fail (.outOfRange ("Python int too large to convert to " ++ bound.word))
      else return some n
    | .bool b => return some (if b then 1 else 0)
    | _ => fail (.wrongKind "* wants int")

end Filling

/-! ### Fields -/

namespace Slot

/-- The parts of a number as it is written in a field. -/
structure Numeral where
  /-- A minus sign, or what the flags put in its place. -/
  sign : String
  /-- What says to which base the digits are. -/
  base : String
  digits : String

/-- How a field is filled up. -/
structure Field where
  width : Nat
  /-- Whether the text stands at the left end. -/
  left : Bool
  /-- Whether numbers are filled up with zeros. -/
  zeros : Bool

namespace Field

def blank (c : Char) (n : Nat) : String := String.ofList (List.replicate n c)

/-- A text in its field. -/
def text (f : Field) (s : String) : String :=
  let fill := blank ' ' (f.width - s.length)
  if f.left then s ++ fill else fill ++ s

/-- A number in its field; zeros stand between the sign and the digits. -/
def numeral (f : Field) (n : Numeral) : String :=
  let head := n.sign ++ n.base
  if f.zeros && !f.left then
    head ++ blank '0' (f.width - head.length - n.digits.length) ++ n.digits
  else f.text (head ++ n.digits)

end Field

/-- The sign of a number. -/
def signText (flags : List Char) (negative : Bool) : String :=
  if negative then "-"
  else if flags.contains '+' then "+"
  else if flags.contains ' ' then " "
  else ""

/-- A literal in which characters outside ASCII are escaped. -/
def asciiLiteral (x : Datum) : String :=
  String.ofList (x.literal.toList.flatMap fun c =>
    if c.toNat < 128 then [c]
    else if c.toNat < 0x100 then '\\' :: 'x' :: Quoted.hexadecimal 2 c.toNat
    else if c.toNat < 0x10000 then '\\' :: 'u' :: Quoted.hexadecimal 4 c.toNat
    else '\\' :: 'U' :: Quoted.hexadecimal 8 c.toNat)

/-- The integer that a letter writes. -/
def integerOf (letter : Char) (x : Datum) : Except Failure Int :=
  let exact := ['x', 'X', 'o'].contains letter
  match x with
  | .int n => .ok n
  | .bool b => .ok (if b then 1 else 0)
  | .double d =>
    if exact then
      .error (.wrongKind ("%" ++ letter.toString ++ " format: an integer is required, not float"))
    -- The fraction of a double is cut off, but there has to be a number in front of it.
    else if d.isNaN then .error (.wrongValue "cannot convert float NaN to integer")
    else if d.isInfinite then
      .error (.outOfRange "cannot convert float infinity to integer")
    else
      let size : Int := (d.numerator / d.denominator : Nat)
      .ok (if d.negative then -size else size)
  | x =>
    .error (.wrongKind ("%" ++ letter.toString ++ " format: " ++
      (if exact then "an integer" else "a real number") ++ " is required, not " ++
      x.fullKindName))

/-- An integer to the base of a letter. -/
def integerNumeral (letter : Char) (flags : List Char) (precision : Option Nat) (n : Int)
    : Numeral :=
  let (base, mark) : Nat × String :=
    if letter = 'x' then (16, "0x") else if letter = 'X' then (16, "0X")
    else if letter = 'o' then (8, "0o") else (10, "")
  let digits := String.ofList (Nat.toDigits base n.natAbs)
  let digits := Field.blank '0' (precision.getD 0 - digits.length) ++ digits
  ⟨signText flags (n < 0), if flags.contains '#' then mark else "",
    if letter = 'X' then digits.toUpper else digits⟩

/-- The double that a letter writes. -/
def doubleOf (x : Datum) : Except Failure Double :=
  match x.number? with
  | some (.inr d) => .ok d
  | some (.inl n) =>
    match Double.ofInt? n with
    | some d => .ok d
    | none => .error .overflow
  | none => .error (.wrongKind ("must be real number, not " ++ x.fullKindName))

/-- A double in the notation of a letter. -/
def doubleNumeral (letter : Char) (flags : List Char) (precision : Option Nat) (x : Double)
    : Numeral :=
  let places := precision.getD 6
  let point := flags.contains '#'
  let digits :=
    if x.isNaN then "nan"
    else if x.isInfinite then "inf"
    else
      match letter.toLower with
      | 'f' => x.fixedText places point
      | 'e' => x.scientificText places point
      | _ => x.generalText places point
  ⟨signText flags (x.negative && !x.isNaN), "", if letter.isUpper then digits.toUpper else digits⟩

/-- The single character that a value stands for. -/
def characterOf : Datum → Except Failure String
  | .text s => if s.length = 1 then .ok s else .error (.wrongKind "%c requires int or char")
  | x =>
    match x.number? with
    | some (.inl n) =>
      if 0 ≤ n ∧ n < 0x110000 then .ok (Char.ofNat n.toNat).toString
      else .error (.outOfRange "%c arg not in range(0x110000)")
    | _ => .error (.wrongKind "%c requires int or char")

/-- The text of a value in a slot. -/
def write (slot : Slot) (letter : Char) (field : Field) (precision : Option Nat) (x : Datum)
    : Except Failure String :=
  let cut (s : String) : String :=
    match precision with
    | some n => String.ofList (s.toList.take n)
    | none => s
  match letter with
  | 's' => .ok (field.text (cut x.display))
  | 'r' => .ok (field.text (cut x.literal))
  | 'a' => .ok (field.text (cut (asciiLiteral x)))
  | 'c' => do return field.text (← characterOf x)
  | 'd' | 'i' | 'u' | 'x' | 'X' | 'o' => do
    return field.numeral (integerNumeral letter slot.flags precision (← integerOf letter x))
  | 'e' | 'E' | 'f' | 'F' | 'g' | 'G' => do
    return field.numeral (doubleNumeral letter slot.flags precision (← doubleOf x))
  | c =>
    let shown := if 31 ≤ c.toNat ∧ c.toNat < 126 then c else '?'
    .error (.wrongValue ("unsupported format character '" ++ shown.toString ++ "' (0x" ++
      String.ofList (Quoted.hexadecimal 0 c.toNat) ++ ") at index " ++ toString slot.place))

/-- Fills a slot. -/
def fill (slot : Slot) : Filling String := do
  Filling.seek slot.source
  let width ← Filling.size Filling.widthBound slot.width
  let precision ← Filling.size Filling.precisionBound slot.precision
  match slot.letter with
  | none => Filling.fail (.wrongValue "incomplete format")
  | some letter =>
    let size := width.getD 0
    let field : Field :=
      -- A width that is taken from the values may be negative, which asks for the left end.
      ⟨size.natAbs, slot.flags.contains '-' || size < 0, slot.flags.contains '0'⟩
    slot.write letter field (precision.map Int.toNat) (← Filling.next)

end Slot

/-- Fills pieces. -/
def Piece.fillAll : List Piece → Filling (List String)
  | [] => return []
  | .plain c :: rest => return c.toString :: (← fillAll rest)
  | .slot s :: rest => do
    let first ← s.fill
    return first :: (← fillAll rest)

/-- Fills a template. Values without names must all be used. -/
def fillTemplate (template : String) (supply : Supply) : Except Failure String := do
  let (parts, left) ← (Piece.fillAll (Piece.split 0 template.toList)).run supply
  if left.named.isNone && !left.rest.isEmpty then
    throw (.wrongKind "not all arguments converted during string formatting")
  return String.join parts

/-- Fills a template with values that are taken in turn. -/
def fillInTurn (template : String) (values : List Datum) : Except Failure String :=
  fillTemplate template ⟨none, values⟩

/-- Fills a template with values that have names. -/
def fillByName (template : String) (entries : List (String × Datum)) : Except Failure String :=
  fillTemplate template ⟨some entries, [.record entries]⟩

end FeatureFlags.Log
