/-! Sets of characters, given by the code points at which membership changes. A table of a property
of all characters is one such value.
-/

namespace FeatureFlags.Unicode

/-- A set of characters: those that have an odd number of bounds at or below them. The bounds are in
ascending order, so they are the first character of the set, the first one past that stretch, and
so on. -/
structure CharSet where
  bounds : Array Nat

namespace CharSet

/-- The number of bounds at or below `n`, when it lies between `low` and `high`. -/
def rank (bounds : Array Nat) (n low high : Nat) : Nat :=
  if low < high then
    let middle := (low + high) / 2
    if bounds.getD middle 0 ≤ n then rank bounds n (middle + 1) high else rank bounds n low middle
  else low
termination_by high - low

/-- Whether a code point belongs to the set. -/
def containsCode (s : CharSet) (n : Nat) : Bool := rank s.bounds n 0 s.bounds.size % 2 == 1

/-- Whether a character belongs to the set. -/
def contains (s : CharSet) (c : Char) : Bool := s.containsCode c.toNat

end CharSet

end FeatureFlags.Unicode
