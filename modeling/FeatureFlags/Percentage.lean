import FeatureFlags.Field.Basic
import FeatureFlags.Rollout

/-! Percentages of a rollout.
-/

namespace FeatureFlags

/-- A whole number from 0 to 100. -/
structure Percentage where
  value : Nat
  le_hundred : value ≤ 100
deriving DecidableEq, Repr

namespace Percentage

/-- What is wrong with a number that is no percentage. -/
def problem? (n : Int) : Option Issue.Problem :=
  if n < 0 then some (.belowLeast 0) else if 100 < n then some (.aboveGreatest 100) else none

/-- Reads a percentage. -/
def read (x : Datum) : Checked Percentage :=
  ((Field.integer x).refuseIf problem?).map fun n =>
    ⟨min n.toNat 100, Nat.min_le_right _ _⟩

/-- A percentage that may be missing, as loose data. -/
def datum (p : Option Percentage) : Datum := (p.map fun p => .int p.value).getD .null

/-- Whether an entity takes part in a rollout to this percentage. -/
def includes (p : Percentage) (scope entityId : String) : Bool :=
  Rollout.includes scope entityId p.value

end Percentage

end FeatureFlags
