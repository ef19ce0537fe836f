import FeatureFlags.Condition.Evaluate
import FeatureFlags.Pattern.Cache

/-! Whether conditions hold, with a store of the regular expressions that were read before. Only an
operator about regular expressions asks the store, and only if it has texts to compare.
-/

namespace FeatureFlags

/-- The regular expressions that are kept, by their texts. -/
abbrev Pattern.Store := Cache String Pattern

namespace Condition

/-- Whether a regular expression, which the store is asked for, matches within a text. -/
def matchesInStored (pattern text : String) (store : Pattern.Store)
    : Traced Bool × Pattern.Store :=
  let (read, next) := Pattern.cached pattern store
  (matchesAs pattern read text, next)

/-- Whether an operator that is not negated holds between the value of an attribute and the expected
value. -/
def holdsBetweenStored (operator : Operator) (actual : Attribute) (expected : Option Attribute)
    (store : Pattern.Store) : Traced Bool × Pattern.Store :=
  match operator, actual, expected with
  | .matchesPattern, .text s, some (.text t) => matchesInStored t s store
  | operator, actual, expected => (holdsBetween operator actual expected, store)

/-- Whether a condition holds in a context, and the store afterwards. -/
def holdsStored (c : Condition) (context : Context) (store : Pattern.Store)
    : Traced Bool × Pattern.Store :=
  match c.operator, context.get? c.name with
  | .isSet, found => (pure found.isSome, store)
  | .isNotSet, found => (pure found.isNone, store)
  | _, none => (pure false, store)
  | operator, some actual =>
    match operator.negated? with
    | some positive =>
      let held := holdsBetweenStored positive actual c.value store
      (do return !(← held.1), held.2)
    | none => holdsBetweenStored operator actual c.value store

end Condition

end FeatureFlags
