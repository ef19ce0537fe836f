/-! Places in texts, as messages name them.
-/

namespace FeatureFlags.Text

/-- The line of what comes after some text, counted from 1. -/
def lineAfter (before : List Char) : Nat := before.count '\n' + 1

/-- The column of what comes after some text, counted from 1. -/
def columnAfter (before : List Char) : Nat := (before.reverse.takeWhile (· ≠ '\n')).length + 1

end FeatureFlags.Text
