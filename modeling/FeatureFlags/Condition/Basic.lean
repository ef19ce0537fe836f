import FeatureFlags.Attribute
import FeatureFlags.Field.Basic

/-! Conditions: an operator between an attribute of a context and a value.
-/

namespace FeatureFlags

/-- What a condition asks of an attribute. -/
inductive Operator where
  | equals
  | notEquals
  | greaterThan
  | lessThan
  | greaterOrEqual
  | lessOrEqual
  | contains
  | notContains
  | isIn
  | notIn
  | startsWith
  | endsWith
  | matchesPattern
  | isSet
  | isNotSet
deriving DecidableEq, Repr

namespace Operator

def all : List Operator :=
  [equals, notEquals, greaterThan, lessThan, greaterOrEqual, lessOrEqual, contains, notContains,
    isIn, notIn, startsWith, endsWith, matchesPattern, isSet, isNotSet]

/-- The word for an operator. -/
def word : Operator → String
  | equals => "equals"
  | notEquals => "not_equals"
  | greaterThan => "greater_than"
  | lessThan => "less_than"
  | greaterOrEqual => "greater_or_equal"
  | lessOrEqual => "less_or_equal"
  | contains => "contains"
  | notContains => "not_contains"
  | isIn => "in"
  | notIn => "not_in"
  | startsWith => "starts_with"
  | endsWith => "ends_with"
  | matchesPattern => "matches_regex"
  | isSet => "is_set"
  | isNotSet => "is_not_set"

/-- The operator that a negated one negates. -/
def negated? : Operator → Option Operator
  | notEquals => some equals
  | notContains => some contains
  | notIn => some isIn
  | _ => none

end Operator

/-- A test of one attribute. -/
structure Condition where
  /-- The name of the attribute. -/
  name : String
  operator : Operator
  value : Option Attribute
deriving DecidableEq

namespace Condition

/-- Reads the value that a condition compares with. -/
def readValue : Datum → Checked (Option Attribute)
  | .null => .ok none
  | x =>
    match Attribute.ofDatum? x with
    | .ok (some a) => .ok (some a)
    | .ok none => .issue (.refused ("unsupported condition value: " ++ x.literal))
    | .error e => .failure e

/-- Reads a condition. -/
def read : Datum → Checked Condition :=
  Field.record "Condition" fun entries =>
    Condition.mk
      <$> Field.required entries "attribute" Field.properText
      <*> Field.required entries "operator"
        (Field.word (Operator.all.map fun op => (op.word, op)))
      <*> Field.optional entries "value" none readValue

/-- A condition as loose data. -/
def datum (c : Condition) : Datum :=
  .record [("attribute", .text c.name), ("operator", .text c.operator.word),
    ("value", (c.value.map Attribute.datum).getD .null)]

/-- The condition of given parts. -/
def of (name : Datum) (operator : Operator) (value : Datum) : Except Failure Condition :=
  (read (.record [("attribute", name), ("operator", .text operator.word),
    ("value", value)])).toExcept "Condition"

end Condition

end FeatureFlags
