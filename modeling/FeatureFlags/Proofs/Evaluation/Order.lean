import FeatureFlags.Proofs.Evaluation.Footprint
import FeatureFlags.Proofs.OrderedMap

/-! The order in which a snapshot lists its parts does not matter for evaluations.
-/

namespace FeatureFlags

/-- The snapshots have the same version and the same flags, states and segments under the same keys,
each of them once, in whatever order.
-/
structure Snapshot.SameParts (s other : Snapshot) : Prop where
  version : s.version = other.version
  flags : s.flags.entries.Perm other.flags.entries
  states : s.states.entries.Perm other.states.entries
  segments : s.segments.entries.Perm other.segments.entries

/-- Snapshots of the same parts evaluate every flag alike, with the same events. -/
theorem Snapshot.SameParts.evaluate_eq {s other : Snapshot} (same : s.SameParts other)
    (flagKey environment : String) (context : Context) (fallback : Datum) (now : Moment)
    : evaluate (some s) flagKey environment context fallback now
      = evaluate (some other) flagKey environment context fallback now :=
  Evaluation.evaluate_congr same.version
    ⟨OrderedMap.get?_eq_of_perm same.flags flagKey,
      OrderedMap.get?_eq_of_perm same.states (flagKey, environment),
      fun _ _ key _ => OrderedMap.get?_eq_of_perm same.segments key⟩
    (Context.AgreeOn.refl context _) (fun _ => rfl) now

end FeatureFlags
