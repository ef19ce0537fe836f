import FeatureFlags.Text.Utf8

/-! Percentage rollouts. An entity falls into one of a hundred buckets by a hash of the scope
followed by the entity's id, with nothing between them; it takes part in a rollout when its bucket
lies below the percentage. Scopes of a flag and of its rules are different texts, so an entity's
buckets are independent of one another.
-/

namespace FeatureFlags.Rollout

def rotateLeft (x : UInt32) (bits : UInt32) : UInt32 := (x <<< bits) ||| (x >>> (32 - bits))

/-- Spreads the bits of a block of four bytes. -/
def scramble (block : UInt32) : UInt32 := rotateLeft (block * 0xcc9e2d51) 15 * 0x1b873593

/-- Mixes the blocks of four bytes, the least significant byte first, and then what is left. -/
def mix (hash : UInt32) : List Nat → UInt32
  | a :: b :: c :: d :: rest =>
    let block := UInt32.ofNat (a + b * 0x100 + c * 0x10000 + d * 0x1000000)
    mix (rotateLeft (hash ^^^ scramble block) 13 * 5 + 0xe6546b64) rest
  | [] => hash
  | [a] => hash ^^^ scramble (UInt32.ofNat a)
  | [a, b] => hash ^^^ scramble (UInt32.ofNat (a + b * 0x100))
  | [a, b, c] => hash ^^^ scramble (UInt32.ofNat (a + b * 0x100 + c * 0x10000))

/-- Makes every bit of the hash depend on every other. -/
def finish (hash : UInt32) : UInt32 :=
  let h := (hash ^^^ (hash >>> 16)) * 0x85ebca6b
  let h := (h ^^^ (h >>> 13)) * 0xc2b2ae35
  h ^^^ (h >>> 16)

/-- The hash of a sequence of bytes. -/
def hash (bytes : List Nat) : UInt32 := finish (mix 0 bytes ^^^ UInt32.ofNat bytes.length)

/-- The number of buckets. -/
def bucketCount : Nat := 100

/-- The scope of a rule of a flag. -/
def ruleScope (flagKey ruleId : String) : String := flagKey ++ ":" ++ ruleId

/-- The text whose hash decides the bucket. -/
def hashedText (scope entityId : String) : String := scope ++ entityId

/-- The bucket of an entity in a scope. -/
def bucket (scope entityId : String) : Nat :=
  (hash (Utf8.encode (hashedText scope entityId))).toNat % bucketCount

theorem bucket_lt (scope entityId : String) : bucket scope entityId < bucketCount :=
  Nat.mod_lt _ (by decide)

/-- Whether an entity takes part in a rollout to `percentage` of all entities. -/
def includes (scope entityId : String) (percentage : Int) : Bool :=
  if (bucketCount : Int) ≤ percentage then true
  else if percentage ≤ 0 then false
  else decide ((bucket scope entityId : Int) < percentage)

end FeatureFlags.Rollout
