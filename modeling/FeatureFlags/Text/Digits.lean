/-! The value of digits.
-/

namespace FeatureFlags

/-- The value of digits to base ten. -/
def Digits.value (digits : List Char) : Nat :=
  digits.foldl (fun n c => 10 * n + (c.toNat - '0'.toNat)) 0

end FeatureFlags
