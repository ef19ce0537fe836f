import FeatureFlags.Flag.Basic
import FeatureFlags.Flag.State
import FeatureFlags.Rule.Selection

/-! Snapshots: all flags, their states in all environments and all segments at one time.
-/

namespace FeatureFlags

/-- All flags, states and segments at one time. -/
structure Snapshot where
  /-- Later snapshots have greater versions. -/
  version : Int
  flags : OrderedMap String Flag
  /-- States by the key of the flag and the environment. -/
  states : OrderedMap (String × String) FlagState
  segments : SegmentMap

namespace Snapshot

/-- The environments in which some flag has a state. -/
def environments (s : Snapshot) : TextSet := .ofList (s.states.keys.map Prod.snd)

/-- Texts in ascending order. -/
def ascending (l : List String) : List String := l.mergeSort fun a b => !decide (b < a)

/-- The keys of all flags, ascending. -/
def flagKeys (s : Snapshot) : List String := ascending s.flags.keys

/-- The keys of the flags that have a state in an environment, ascending. -/
def flagKeysIn (s : Snapshot) (environment : String) : List String :=
  ascending ((s.states.keys.filter fun k => k.2 == environment).map Prod.fst)

/-- The states of a flag by environment, ascending. -/
def statesOf (s : Snapshot) (flagKey : String) : List (String × FlagState) :=
  ((s.states.entries.filter fun e => e.1.1 == flagKey).map fun e => (e.1.2, e.2)).mergeSort
    fun a b => !decide (b.1 < a.1)

/-- How much the snapshot holds. -/
def stats (s : Snapshot) : Datum :=
  .record [("version", .int s.version), ("flags", .int s.flags.size),
    ("states", .int s.states.size), ("segments", .int s.segments.size),
    ("environments", .int s.environments.elements.length)]

end Snapshot

end FeatureFlags
