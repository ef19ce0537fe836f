import FeatureFlags.Datum.Literal
import FeatureFlags.Field.Checked

/-! Values of flags: a truth value or a text.
-/

namespace FeatureFlags

/-- A value that a flag can have. -/
inductive FlagValue where
  | bool (value : Bool)
  | text (value : String)
deriving DecidableEq, Repr

namespace FlagValue

/-- A value of a flag as loose data. -/
def datum : FlagValue → Datum
  | bool b => .bool b
  | text s => .text s

/-- Reads the value of a flag; numbers do not count as truth values. -/
def read : Datum → Checked FlagValue
  | .bool b => .ok (bool b)
  | .text s => .ok (text s)
  | x => .issue (.refused ("flag value must be a boolean or string, got " ++ x.literal))

end FlagValue

end FeatureFlags
