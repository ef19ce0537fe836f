import FeatureFlags.Number.Double

/-! The shortest decimal text that reads back as the same number. For one digit, two digits and so
on, the two neighbours of the exact value with that many digits are tried; the first length with a
neighbour that rounds back to the number wins, and of two such neighbours the nearer one, or the
even one if they are equally near.
-/

namespace FeatureFlags

/-- The decimal number `digits * 10 ^ exponent`. -/
structure Decimal where
  digits : Nat
  exponent : Int
deriving DecidableEq, Repr

namespace Decimal

/-- The same decimal without zeros at its end. -/
def strip (x : Decimal) : Decimal :=
  if h : x.digits ≠ 0 ∧ x.digits % 10 = 0 then
    strip ⟨x.digits / 10, x.exponent + 1⟩
  else x
termination_by x.digits
decreasing_by omega

/-- The number of digits in front of the point; `0` and below when zeros follow the point. -/
def point (x : Decimal) : Int := x.exponent + Double.decimalLength x.digits

end Decimal

namespace Double

/-- The number of digits in front of the point of the positive quotient `num / den`. -/
def pointOf (num den : Nat) : Int :=
  if den ≤ num then decimalLength (num / den)
  else 1 - (decimalLength ((den - 1) / num) : Int)

/-- Whether a decimal rounds to the number. -/
def readsBack (x : Double) (d : Decimal) : Bool := ofDecimal x.negative d.digits d.exponent == x

/-- The decimal with a given number of digits that reads back and is nearest to the number. -/
def nearest? (x : Double) (places : Nat) : Option Decimal :=
  let shift : Int := places - pointOf x.numerator x.denominator
  let num := x.numerator * Nat.pow 10 shift.toNat
  let den := x.denominator * Nat.pow 10 (-shift).toNat
  let below : Decimal := ⟨num / den, -shift⟩
  let above : Decimal := ⟨num / den + 1, -shift⟩
  -- The nearer neighbour is tried first; of two equally near ones, the even one.
  let twice := 2 * (num % den)
  if twice < den ∨ (twice = den ∧ below.digits % 2 = 0) then [below, above].find? x.readsBack
  else [above, below].find? x.readsBack

/-- The exact decimal value of a finite number. -/
def exactDecimal (x : Double) : Decimal :=
  if 0 ≤ x.exponent then ⟨x.numerator, 0⟩
  else ⟨x.significand * Nat.pow 5 (-x.exponent).toNat, x.exponent⟩

/-- The shortest decimal that reads back as a finite number other than zero. -/
def shortest (x : Double) : Decimal :=
  (((List.range 17).findSome? (fun n => x.nearest? (n + 1))).getD x.exactDecimal).strip

/-- How shortest decimals are laid out: positional as long as the point stands between the two
bounds, otherwise with an exponent of at least two digits that always has a sign. -/
structure Style where
  leastPoint : Int
  greatestPoint : Int
  infinity : String
  nan : String

/-- Text of an exponent: its sign and at least two digits. -/
def exponentText (e : Int) : String :=
  let digits := toString e.natAbs
  (if e < 0 then "-" else "+") ++ (if digits.length < 2 then "0" ++ digits else digits)

/-- The digits of a decimal with a point in front of the last `places` ones. -/
def pointed (digits : List Char) (places : Nat) : String :=
  let padded := List.replicate (places + 1 - digits.length) '0' ++ digits
  let whole := padded.length - places
  String.ofList (padded.take whole ++ '.' :: padded.drop whole)

/-- Text of a positive decimal. -/
def Style.decimal (style : Style) (d : Decimal) : String :=
  let digits := Nat.toDigits 10 d.digits
  let point := d.point
  if style.leastPoint ≤ point ∧ point ≤ style.greatestPoint then
    if 0 ≤ d.exponent then
      String.ofList (digits ++ List.replicate d.exponent.toNat '0') ++ ".0"
    else pointed digits (-d.exponent).toNat
  else
    let mantissa :=
      match digits with
      | [] => ""
      | [c] => c.toString
      | c :: rest => String.ofList (c :: '.' :: rest)
    mantissa ++ "e" ++ exponentText (point - 1)

/-- Text of any number. -/
def Style.text (style : Style) (x : Double) : String :=
  if x.isNaN then style.nan
  else
    let sign := if x.negative then "-" else ""
    if x.isInfinite then sign ++ style.infinity
    else if x.isZero then sign ++ "0.0"
    else sign ++ style.decimal x.shortest

end Double

end FeatureFlags
