import FeatureFlags.Pattern.Reader

/-! A store of results that were computed before. It holds a limited number of them and drops the one
that was asked for least recently. Failures are not stored, so they are computed again.
-/

namespace FeatureFlags

/-- The results of some keys, and how often a key was and was not among them. -/
structure Cache (κ α : Type) where
  capacity : Nat
  /-- The keys with their results, the one asked for last first. -/
  entries : List (κ × α)
  hits : Nat
  misses : Nat

namespace Cache

variable {κ α ε : Type} [DecidableEq κ]

/-- An empty store for a number of results. -/
def ofCapacity (capacity : Nat) : Cache κ α := ⟨capacity, [], 0, 0⟩

def size (c : Cache κ α) : Nat := c.entries.length

/-- Asks for the result of a key, which is computed if the store does not hold it. -/
def ask (compute : κ → Except ε α) (key : κ) (c : Cache κ α) : Except ε α × Cache κ α :=
  match c.entries.lookup key with
  | some value =>
    (.ok value,
      { c with
        entries := (key, value) :: c.entries.filter fun e => e.1 ≠ key
        hits := c.hits + 1 })
  | none =>
    match compute key with
    | .ok value =>
      (.ok value,
        { c with entries := ((key, value) :: c.entries).take c.capacity, misses := c.misses + 1 })
    | .error e => (.error e, { c with misses := c.misses + 1 })

end Cache

namespace Pattern

/-- The number of regular expressions that are kept. -/
def cacheCapacity : Nat := 1024

/-- Asks a store for the regular expression of a text. -/
def cached (text : String) (c : Cache String Pattern)
    : Except Fault Pattern × Cache String Pattern := c.ask read text

end Pattern

end FeatureFlags
