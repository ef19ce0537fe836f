import FeatureFlags.Condition.Basic
import FeatureFlags.Pattern.Reader

/-! Conditions that could never do what they were written for: a comparison without a value, a value
of the wrong kind, a malformed regular expression.
-/

namespace FeatureFlags.Condition

/-- The kinds of values that operators compare with. -/
inductive Operand where
  | any
  | number
  | text
  | texts
deriving DecidableEq, Repr

/-- The kind of value that an operator needs, if it needs one. -/
def operand? : Operator → Option Operand
  | .isSet | .isNotSet => none
  | .equals | .notEquals => some .any
  | .greaterThan | .lessThan | .greaterOrEqual | .lessOrEqual => some .number
  | .isIn | .notIn => some .texts
  | .contains | .notContains | .startsWith | .endsWith | .matchesPattern => some .text

namespace Operand

/-- The words for what is needed. -/
def words : Operand → String
  | any => "a value"
  | number => "a number"
  | text => "a string"
  | texts => "a list of strings"

/-- Whether a value is of the needed kind. -/
def admits : Operand → Attribute → Bool
  | any, _ => true
  | number, .number _ => true
  | text, .text _ => true
  | texts, .texts _ => true
  | _, _ => false

end Operand

/-- The fault of a condition that is part of something. -/
def fault (c : Condition) (place detail : String) : Failure :=
  .fault (.of .invalidCondition (place ++ ": " ++ detail)
    [("where", .text place), ("attribute", .text c.name),
      ("operator", .text c.operator.word)])

/-- Checks that a regular expression can be read. -/
def checkPattern (c : Condition) (place pattern : String) : Except Failure Unit :=
  match Pattern.read pattern with
  | .ok _ => .ok ()
  | .error fault =>
    match fault with
    | .malformed _ _ =>
      .error (c.fault place ("invalid regex " ++ Quoted.quote pattern ++ ": " ++
        fault.message pattern.toList))
    | _ => .error (.pattern pattern fault)

/-- Checks the value of a condition that is part of something. -/
def check (c : Condition) (place : String) : Except Failure Unit :=
  match operand? c.operator, c.value with
  | none, _ => .ok ()
  | some _, none => .error (c.fault place ("operator " ++ c.operator.word ++ " needs a value"))
  | some needed, some value =>
    if !needed.admits value then
      .error (c.fault place ("operator " ++ c.operator.word ++ " needs " ++ needed.words ++
        ", got " ++ value.literal))
    else
      match c.operator, value with
      | .matchesPattern, .text pattern => c.checkPattern place pattern
      | _, _ => .ok ()

/-- Checks conditions one after the other. -/
def checkAll (place : String) : List Condition → Except Failure Unit
  | [] => .ok ()
  | c :: rest => do
    c.check place
    checkAll place rest

end FeatureFlags.Condition
