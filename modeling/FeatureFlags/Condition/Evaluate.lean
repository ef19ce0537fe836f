import FeatureFlags.Condition.Basic
import FeatureFlags.Context.Basic
import FeatureFlags.Event
import FeatureFlags.Pattern.Match

/-! Whether conditions hold in a context. A positive operator fails when the attribute is missing or
when one of the two values is not of a kind that the operator is about; a negated operator holds when
the attribute is there and the positive one fails.
-/

namespace FeatureFlags

/-- Whether a list occurs within another one without gaps. -/
def occursIn (part : List Char) : List Char → Bool
  | [] => part.isEmpty
  | c :: rest => part.isPrefixOf (c :: rest) || occursIn part rest

namespace Condition

/-- The event that a condition has a malformed regular expression. -/
def badPattern (pattern : String) : Event :=
  ⟨.debug, "flaps.engine.conditions",
    "condition.bad_regex pattern=" ++ Quoted.quote pattern⟩

/-- Whether a regular expression, as it was read, matches within a text; a malformed one matches
nowhere. -/
def matchesAs (pattern : String) (read : Except Pattern.Fault Pattern) (text : String)
    : Traced Bool :=
  match read with
  | .ok p => pure (p.occursIn text)
  | .error (.malformed _ _) => do
    .emit (badPattern pattern)
    return false
  | .error fault => .fail (.pattern pattern fault)

/-- Whether a regular expression matches within a text. -/
def matchesIn (pattern text : String) : Traced Bool :=
  matchesAs pattern (Pattern.read pattern) text

/-- Whether an operator that is not negated holds between the value of an attribute and the expected
value. -/
def holdsBetween (operator : Operator) (actual : Attribute) (expected : Option Attribute)
    : Traced Bool :=
  match operator, actual, expected with
  | .equals, a, some b => pure (a.same b)
  | .greaterThan, .number x, some (.number y) => pure (y.lt x)
  | .lessThan, .number x, some (.number y) => pure (x.lt y)
  | .greaterOrEqual, .number x, some (.number y) => pure (y.le x)
  | .lessOrEqual, .number x, some (.number y) => pure (x.le y)
  | .contains, .text s, some (.text t) => pure (FeatureFlags.occursIn t.toList s.toList)
  | .contains, .texts s, some (.text t) => pure (s.contains t)
  | .isIn, .text s, some (.texts t) => pure (t.contains s)
  | .startsWith, .text s, some (.text t) => pure (t.toList.isPrefixOf s.toList)
  | .endsWith, .text s, some (.text t) => pure (t.toList.isSuffixOf s.toList)
  | .matchesPattern, .text s, some (.text t) => matchesIn t s
  | _, _, _ => pure false

/-- Whether a condition holds in a context. -/
def holds (c : Condition) (context : Context) : Traced Bool :=
  match c.operator, context.get? c.name with
  | .isSet, found => pure found.isSome
  | .isNotSet, found => pure found.isNone
  | _, none => pure false
  | operator, some actual =>
    match operator.negated? with
    | some positive => do return !(← holdsBetween positive actual c.value)
    | none => holdsBetween operator actual c.value

/-- Whether all conditions hold. -/
def allHold (conditions : List Condition) (context : Context) : Traced Bool :=
  Traced.all (fun c => c.holds context) conditions

end Condition

end FeatureFlags
