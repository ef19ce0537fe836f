import FeatureFlags.Event
import FeatureFlags.Snapshot.Check

/-! Building snapshots from their parts. A part that is given twice is a mistake, since there is no
telling which of the two was meant.
-/

namespace FeatureFlags.Snapshot

/-- Puts parts under their keys. The same key must not come twice. -/
def distinctBy {κ α : Type} [DecidableEq κ] (duplicate : κ → Failure)
    (map : OrderedMap κ α) : List (κ × α) → Except Failure (OrderedMap κ α)
  | [] => .ok map
  | (key, a) :: rest =>
    if map.contains key then .error (duplicate key)
    else distinctBy duplicate (map.insert key a) rest

def duplicateFlag (key : String) : Failure :=
  .fault (.of .duplicateKey ("duplicate flag " ++ Quoted.quote key) [("flag", .text key)])

def duplicateSegment (key : String) : Failure :=
  .fault (.of .duplicateKey ("duplicate segment " ++ Quoted.quote key) [("segment", .text key)])

def duplicateState (key : String × String) : Failure :=
  .fault (.of .duplicateKey
    ("duplicate state for flag " ++ Quoted.quote key.1 ++ " in env " ++ Quoted.quote key.2)
    [("flag", .text key.1), ("environment", .text key.2)])

/-- Reads the version of a snapshot. -/
def readVersion (x : Datum) : Checked Int :=
  (Field.integer x).refuseIf fun n => if n < 0 then some (.belowLeast 0) else none

/-- The snapshot of a version and parts under their keys, if they fit together. -/
def ofMaps (version : Datum) (flags : OrderedMap String Flag)
    (states : OrderedMap (String × String) FlagState) (segments : SegmentMap)
    : Except Failure Snapshot := do
  let version ← ((readVersion version).under (.name "version")).toExcept "Snapshot"
  let snapshot : Snapshot := ⟨version, flags, states, segments⟩
  snapshot.check
  return snapshot

/-- The event that a snapshot was built. -/
def built (s : Snapshot) : Event :=
  ⟨.debug, "flaps.snapshot",
    "snapshot.built version=" ++ toString s.version ++ " flags=" ++ toString s.flags.size ++
      " states=" ++ toString s.states.size ++ " segments=" ++ toString s.segments.size⟩

/-- Builds a snapshot from sequences of parts. -/
def build (version : Datum) (flags : List Flag) (states : List ((String × String) × FlagState))
    (segments : List Segment) : Traced Snapshot := do
  let flags ← .lift (distinctBy duplicateFlag ∅ (flags.map fun f => (f.key, f)))
  let states ← .lift (distinctBy duplicateState ∅ states)
  let segments ← .lift (distinctBy duplicateSegment ∅ (segments.map fun s => (s.key, s)))
  let snapshot ← .lift (ofMaps version flags states segments)
  .emit snapshot.built
  return snapshot

end FeatureFlags.Snapshot
