import FeatureFlags.Proofs.Condition.Validation
import FeatureFlags.Proofs.Snapshot.Building

/-! What the checks of a snapshot end with: faults of the snapshot family, except on regular expressions
that cannot be compiled in another way than by being malformed.
-/

namespace FeatureFlags.Snapshot

-----------------------------------------------------------------------------------------
-- What the checks end with
-----------------------------------------------------------------------------------------

/-- The errors of checks that look at some conditions: faults of the snapshot family, and regular
expressions that cannot be read for another reason than being malformed.
-/
inductive CheckError (conditions : Condition → Prop) : Failure → Prop
  | reported {f : Fault} (family : .snapshotInvalid ∈ f.kind.ancestry)
      : CheckError conditions (.fault f)
  | pattern {c : Condition} {text : String} {fault : Pattern.Fault} (condition : conditions c)
      (operator : c.operator = .matchesPattern) (value : c.value = some (.text text))
      (unread : Pattern.read text = .error fault)
      (other : fault = .countless ∨ fault = .contraryFlags)
      : CheckError conditions (.pattern text fault)

theorem CheckError.mono {conditions more : Condition → Prop} {e : Failure}
    (error : CheckError conditions e) (within : ∀ c, conditions c → more c)
    : CheckError more e := by
  cases error with
  | reported family => exact .reported family
  | pattern condition operator value unread other =>
      exact .pattern (within _ condition) operator value unread other

end FeatureFlags.Snapshot
