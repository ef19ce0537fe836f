/-! Binary floating-point numbers of sixty-four bits. A number is a sign together with its exponent
and fraction fields read as one natural number: that number grows with the absolute value, so order
and equality of numbers are order and equality of integers. Rounding is done once, on an exact
quotient, to the nearest number and to the even one of two that are equally near.
-/

namespace FeatureFlags

/-- The quotient of two natural numbers rounded to the nearest one, a half going to the even one. -/
def roundDiv (num den : Nat) : Nat :=
  let quotient := num / den
  let twice := 2 * (num % den)
  if twice < den then quotient
  else if den < twice then quotient + 1
  else quotient + quotient % 2

/-- A double-precision number. -/
structure Double where
  /-- Whether the sign bit is set. -/
  negative : Bool
  /-- The exponent and fraction fields, read as one number. -/
  magnitude : Nat
  /-- The two fields have sixty-three bits. -/
  magnitude_lt : magnitude < Nat.pow 2 63
deriving DecidableEq, Repr

namespace Double

/-- The magnitude of the infinities; every larger one belongs to no number. -/
def infiniteMagnitude : Nat := 2047 * Nat.pow 2 52

theorem infiniteMagnitude_lt : infiniteMagnitude < Nat.pow 2 63 := by decide

def zero : Double := ⟨false, 0, by decide⟩

def infinity (negative : Bool) : Double := ⟨negative, infiniteMagnitude, infiniteMagnitude_lt⟩

/-- The one value that is not a number which arithmetic and readers produce. -/
def nan : Double := ⟨false, infiniteMagnitude + Nat.pow 2 51, by decide⟩

instance : Inhabited Double := ⟨zero⟩

def isNaN (x : Double) : Bool := infiniteMagnitude < x.magnitude

def isInfinite (x : Double) : Bool := x.magnitude == infiniteMagnitude

def isFinite (x : Double) : Bool := x.magnitude < infiniteMagnitude

def isZero (x : Double) : Bool := x.magnitude == 0

/-- The sixty-four bits as a natural number, sign bit first. -/
def bits (x : Double) : Nat := (if x.negative then Nat.pow 2 63 else 0) + x.magnitude

def neg (x : Double) : Double := { x with negative := !x.negative }

def abs (x : Double) : Double := { x with negative := false }

/-! ### Order -/

/-- The position of a number on the line of all numbers; both zeros stand at `0`. -/
def key (x : Double) : Int := if x.negative then -(x.magnitude : Int) else x.magnitude

/-- Numeric equality: the two zeros are equal, and a value that is no number equals nothing. -/
def eq (x y : Double) : Bool := !x.isNaN && !y.isNaN && x.key == y.key

def lt (x y : Double) : Bool := !x.isNaN && !y.isNaN && x.key < y.key

def le (x y : Double) : Bool := !x.isNaN && !y.isNaN && x.key ≤ y.key

/-! ### Exact value

The absolute value of a finite number is `significand * 2 ^ exponent`. -/

/-- The integer part of the exact value. -/
def significand (x : Double) : Nat :=
  if x.magnitude < Nat.pow 2 52 then x.magnitude else x.magnitude % Nat.pow 2 52 + Nat.pow 2 52

/-- The power of two that scales the significand. -/
def exponent (x : Double) : Int :=
  if x.magnitude < Nat.pow 2 52 then -1074 else (x.magnitude / Nat.pow 2 52 : Nat) - 1075

/-- The absolute value as a quotient: numerator. -/
def numerator (x : Double) : Nat := x.significand * Nat.pow 2 x.exponent.toNat

/-- The absolute value as a quotient: denominator, a power of two. -/
def denominator (x : Double) : Nat := Nat.pow 2 (-x.exponent).toNat

theorem denominator_pos (x : Double) : 0 < x.denominator := Nat.two_pow_pos _

/-- Whether a finite number has no fractional part. -/
def isIntegral (x : Double) : Bool := x.numerator % x.denominator == 0

/-- The largest integer that is at most a finite number. -/
def floor (x : Double) : Int :=
  if x.negative then -((x.numerator + x.denominator - 1) / x.denominator : Nat)
  else (x.numerator / x.denominator : Nat)

/-! ### Rounding -/

/-- The scale of the unit in the last place of `num / den`: the power of two, counted from the least
one, for which the rounded quotient has at most fifty-three bits. -/
def scaleOf (num den : Nat) : Nat :=
  -- The quotient lies between half of and twice this power of two.
  let estimate : Int := (num.log2 : Int) - den.log2
  let below :=
    if 0 ≤ estimate then num < den * Nat.pow 2 estimate.toNat
    else num * Nat.pow 2 (-estimate).toNat < den
  ((if below then estimate - 1 else estimate) + 1022).toNat

/-- The magnitude nearest to the quotient `num / den`, never above the infinite one. A significand
that rounds up to fifty-four bits carries into the exponent field. -/
def roundMagnitude (num den : Nat) : Nat :=
  if num = 0 then 0 else
  let scale := scaleOf num den
  let significand :=
    if scale ≤ 1074 then roundDiv (num * Nat.pow 2 (1074 - scale)) den
    else roundDiv num (den * Nat.pow 2 (scale - 1074))
  min (scale * Nat.pow 2 52 + significand) infiniteMagnitude

theorem roundMagnitude_le (num den : Nat) : roundMagnitude num den ≤ infiniteMagnitude := by
  unfold roundMagnitude
  split
  · exact Nat.zero_le _
  · exact Nat.min_le_right _ _

/-- The number nearest to `± num / den`; an infinity from half a unit past the largest one on. -/
def ofRatio (negative : Bool) (num den : Nat) : Double :=
  ⟨negative, roundMagnitude num den,
    Nat.lt_of_le_of_lt (roundMagnitude_le num den) infiniteMagnitude_lt⟩

/-- The number nearest to `± significand * 2 ^ exponent`. -/
def ofScaled (negative : Bool) (significand : Nat) (exponent : Int) : Double :=
  ofRatio negative (significand * Nat.pow 2 exponent.toNat) (Nat.pow 2 (-exponent).toNat)

/-- The number nearest to an integer, or `none` when that would be an infinity. -/
def ofInt? (n : Int) : Option Double :=
  let x := ofRatio (n < 0) n.natAbs 1
  if x.isFinite then some x else none

/-- The number of decimal digits. -/
def decimalLength (n : Nat) : Nat := (Nat.toDigits 10 n).length

/-- The number nearest to `± digits * 10 ^ exponent`. Powers that lie outside every finite number
are decided by the length alone. -/
def ofDecimal (negative : Bool) (digits : Nat) (exponent : Int) : Double :=
  if digits = 0 then ⟨negative, 0, by decide⟩
  else
    let point := exponent + decimalLength digits
    -- Finite numbers other than zero have between -323 and 309 digits in front of the point.
    if 400 < point then infinity negative
    else if point < -400 then ⟨negative, 0, by decide⟩
    else ofRatio negative (digits * Nat.pow 10 exponent.toNat) (Nat.pow 10 (-exponent).toNat)

/-! ### Arithmetic

Each operation rounds its exact result once. -/

def mul (x y : Double) : Double :=
  let negative := x.negative != y.negative
  if x.isNaN || y.isNaN then nan
  else if x.isInfinite || y.isInfinite then
    if x.isZero || y.isZero then nan else infinity negative
  else ofScaled negative (x.significand * y.significand) (x.exponent + y.exponent)

/-- The value in units of the least positive number, with its sign. -/
def units (x : Double) : Int :=
  let size := x.significand * Nat.pow 2 (x.exponent + 1074).toNat
  if x.negative then -(size : Int) else size

def add (x y : Double) : Double :=
  if x.isNaN || y.isNaN then nan
  else if x.isInfinite then
    if y.isInfinite && x.negative != y.negative then nan else x
  else if y.isInfinite then y
  else
    let sum := x.units + y.units
    let negative := if sum = 0 then x.negative && y.negative else sum < 0
    ofScaled negative sum.natAbs (-1074)

def sub (x y : Double) : Double := add x y.neg

/-- Division by a number other than zero. -/
def div (x y : Double) : Double :=
  let negative := x.negative != y.negative
  if x.isNaN || y.isNaN then nan
  else if x.isInfinite then
    if y.isInfinite then nan else infinity negative
  else if y.isInfinite then ⟨negative, 0, by decide⟩
  else ofRatio negative (x.numerator * y.denominator) (x.denominator * y.numerator)

end Double

end FeatureFlags
