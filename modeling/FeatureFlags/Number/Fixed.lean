import FeatureFlags.Number.Shortest

/-! Decimal text with a chosen number of places. The exact value is rounded once, a half going to
the even digit.
-/

namespace FeatureFlags.Double

/-- The absolute value in units of the last of `places` decimal places. -/
def roundPlaces (x : Double) (places : Nat) : Nat :=
  roundDiv (x.numerator * Nat.pow 10 places) x.denominator

/-- The finite number nearest to the value rounded to `places` decimal places. -/
def roundTo (x : Double) (places : Nat) : Double :=
  if x.isFinite then ofDecimal x.negative (x.roundPlaces places) (-(places : Int)) else x

/-- The digits of the absolute value rounded to `count` significant ones, and the exponent of the
first digit. -/
def significantDigits (x : Double) (count : Nat) : List Char × Int :=
  if x.isZero then (List.replicate count '0', 0)
  else
    let point := pointOf x.numerator x.denominator
    let shift : Int := count - point
    let rounded :=
      roundDiv (x.numerator * Nat.pow 10 shift.toNat) (x.denominator * Nat.pow 10 (-shift).toNat)
    if rounded = Nat.pow 10 count then (Nat.toDigits 10 (Nat.pow 10 (count - 1)), point)
    else (Nat.toDigits 10 rounded, point - 1)

/-- Text of the absolute value of a finite number with `places` decimal places; `keepPoint` keeps
the point when no place follows it. -/
def fixedText (x : Double) (places : Nat) (keepPoint : Bool) : String :=
  let digits := Nat.toDigits 10 (x.roundPlaces places)
  if places = 0 then String.ofList digits ++ (if keepPoint then "." else "")
  else pointed digits places

/-- Text with one digit in front of the point, `places` behind it, and an exponent. -/
def scientificText (x : Double) (places : Nat) (keepPoint : Bool) : String :=
  let (digits, exponent) := x.significantDigits (places + 1)
  let mantissa :=
    match digits with
    | [] => ""
    | [c] => c.toString ++ (if keepPoint then "." else "")
    | c :: rest => String.ofList (c :: '.' :: rest)
  mantissa ++ "e" ++ exponentText exponent

/-- Drops the zeros behind the point, and the point when nothing is left behind it. -/
def dropZeros (text : List Char) : List Char :=
  if text.contains '.' then
    let short := (text.reverse.dropWhile (· == '0')).reverse
    if short.getLast? == some '.' then short.dropLast else short
  else text

/-- Text with `precision` significant digits, positional for middling exponents. Without
`keepPoint` zeros at the end of the fraction are dropped. -/
def generalText (x : Double) (precision : Nat) (keepPoint : Bool) : String :=
  let precision := max precision 1
  let (digits, exponent) := x.significantDigits precision
  if -4 ≤ exponent ∧ exponent < precision then
    let text := x.fixedText (precision - 1 - exponent).toNat keepPoint
    if keepPoint then text else String.ofList (dropZeros text.toList)
  else
    let mantissa :=
      match digits with
      | [] => []
      | [c] => if keepPoint then [c, '.'] else [c]
      | c :: rest => c :: '.' :: rest
    String.ofList (if keepPoint then mantissa else dropZeros mantissa) ++ "e" ++
      exponentText exponent

/-- Text of any number with `places` decimal places. -/
def fixed (x : Double) (places : Nat) : String :=
  if x.isNaN then "nan"
  else
    let sign := if x.negative then "-" else ""
    if x.isInfinite then sign ++ "inf" else sign ++ x.fixedText places false

end FeatureFlags.Double
