import FeatureFlags.Datum.Literal
import FeatureFlags.Failure

/-! Percentiles of numbers. The smallest and the greatest number are the ends of the scale; between
two numbers the value changes evenly. Integers are exact until the last division.
-/

namespace FeatureFlags.Benchmark

/-- An integer or a double. -/
abbrev Measure := Int ⊕ Double

namespace Measure

/-- Whether an integer is less than a double. -/
def intLtDouble (n : Int) (x : Double) : Bool :=
  if x.isNaN then false
  else if x.isInfinite then !x.negative
  else
    let numerator : Int := if x.negative then -(x.numerator : Int) else x.numerator
    n * x.denominator < numerator

/-- Whether a double is less than an integer. -/
def doubleLtInt (x : Double) (n : Int) : Bool :=
  if x.isNaN then false
  else if x.isInfinite then x.negative
  else
    let numerator : Int := if x.negative then -(x.numerator : Int) else x.numerator
    numerator < n * x.denominator

def lt : Measure → Measure → Bool
  | .inl m, .inl n => m < n
  | .inl m, .inr y => intLtDouble m y
  | .inr x, .inl n => doubleLtInt x n
  | .inr x, .inr y => x.lt y

/-- The double of a number. -/
def double : Measure → Except Failure Double
  | .inl n =>
    match Double.ofInt? n with
    | some x => .ok x
    | none => .error .overflow
  | .inr x => .ok x

def ofNat (n : Nat) : Double := .ofRatio false n 1

/-- A number times a small one. -/
def scale (x : Measure) (factor : Nat) : Measure :=
  match x with
  | .inl n => .inl (n * factor)
  | .inr x => .inr (x.mul (ofNat factor))

/-- The sum of two numbers, exact for integers. -/
def add : Measure → Measure → Except Failure Measure
  | .inl m, .inl n => .ok (.inl (m + n))
  | a, b => do return .inr ((← a.double).add (← b.double))

/-- A number divided by a small one. -/
def divide (x : Measure) (divisor : Nat) : Except Failure Double :=
  match x with
  | .inl n =>
    let q := Double.ofRatio (n < 0) n.natAbs divisor
    if q.isInfinite then .error .hugeQuotient else .ok q
  | .inr x => .ok (x.div (ofNat divisor))

end Measure

/-- The number of steps of the scale. -/
def steps : Nat := 100

/-- The value at a step of the scale of at least two ascending numbers. -/
def quantile (sorted : List Measure) (step : Nat) : Except Failure Double := do
  let place := step * (sorted.length - 1)
  let below := sorted.getD (place / steps) (.inl 0)
  let above := sorted.getD (place / steps + 1) (.inl 0)
  let share := place % steps
  Measure.divide (← Measure.add (below.scale (steps - share)) (above.scale share)) steps

/-- Values at the middle of a scale and near its end. -/
structure Percentiles where
  p50 : Datum
  p95 : Datum
  p99 : Datum

namespace Percentiles

def datum (p : Percentiles) : Datum := .record [("p50", p.p50), ("p95", p.p95), ("p99", p.p99)]

/-- The percentiles of values. Of one value all are the value itself. -/
def of (values : List Datum) : Except Failure Percentiles :=
  match values with
  | [] => .ok ⟨.double .zero, .double .zero, .double .zero⟩
  | [x] => .ok ⟨x, x, x⟩
  | values => do
    let measures ← values.mapM fun x =>
      match x.number? with
      | some m => .ok m
      | none => .error (.wrongKind ("no number: " ++ x.literal))
    let sorted := measures.mergeSort fun a b => !Measure.lt b a
    return ⟨.double (← quantile sorted 50), .double (← quantile sorted 95),
      .double (← quantile sorted 99)⟩

end Percentiles

end FeatureFlags.Benchmark
