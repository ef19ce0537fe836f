import FeatureFlags.Datum.Basic

/-! Faults of configuration, snapshots and contexts. Each has a code, a domain and a severity, by
which the service that feeds snapshots decides whether to keep the former ones or to call someone.
-/

namespace FeatureFlags

namespace Fault

/-- What kind of fault it is. -/
inductive Kind where
  | unspecified
  | configInvalid
  | configMissing
  | snapshotInvalid
  | danglingSegment
  | typeMismatch
  | invalidCondition
  | duplicateKey
  | invalidFlagKey
  | staleSnapshot
  | invalidAttribute
deriving DecidableEq, Repr

namespace Kind

def all : List Kind :=
  [unspecified, configInvalid, configMissing, snapshotInvalid, danglingSegment, typeMismatch,
    invalidCondition, duplicateKey, invalidFlagKey, staleSnapshot, invalidAttribute]

/-- The more general kind of which this one is a case. -/
def parent? : Kind → Option Kind
  | unspecified => none
  | danglingSegment | typeMismatch | invalidCondition | duplicateKey | invalidFlagKey =>
    some snapshotInvalid
  | _ => some unspecified

/-- The kind, the kind of which it is a case, and so on. -/
def ancestry (kind : Kind) : List Kind :=
  match kind.parent? with
  | none => [kind]
  | some unspecified => [kind, unspecified]
  | some parent => [kind, parent, unspecified]

def code : Kind → String
  | unspecified => "FLAPS_UNKNOWN"
  | configInvalid => "FLAPS_CONFIG_INVALID"
  | configMissing => "FLAPS_CONFIG_MISSING"
  | snapshotInvalid => "FLAPS_SNAPSHOT_INVALID"
  | danglingSegment => "FLAPS_SNAPSHOT_DANGLING_SEGMENT"
  | typeMismatch => "FLAPS_SNAPSHOT_TYPE_MISMATCH"
  | invalidCondition => "FLAPS_SNAPSHOT_INVALID_CONDITION"
  | duplicateKey => "FLAPS_SNAPSHOT_DUPLICATE_KEY"
  | invalidFlagKey => "FLAPS_SNAPSHOT_INVALID_FLAG_KEY"
  | staleSnapshot => "FLAPS_SNAPSHOT_STALE"
  | invalidAttribute => "FLAPS_CONTEXT_INVALID_ATTRIBUTE"

/-- The part of the system that the fault concerns. -/
def domain : Kind → String
  | unspecified => "ENGINE"
  | configInvalid | configMissing => "CONFIG"
  | invalidAttribute => "CONTEXT"
  | _ => "SNAPSHOT"

/-- How bad the fault is: nothing can be served, an operation was refused, or an operation was
refused and the former state is still served. -/
def severity : Kind → String
  | configInvalid | configMissing => "critical"
  | staleSnapshot => "warn"
  | _ => "error"

end Kind

end Fault

/-- A fault with its message and the names that it concerns. -/
structure Fault where
  kind : Fault.Kind
  message : String
  context : List (String × Datum)

namespace Fault

/-- A fault; without a message its code stands for one. -/
def of (kind : Kind) (message : String) (context : List (String × Datum)) : Fault :=
  ⟨kind, if message.isEmpty then kind.code else message, context⟩

/-- A fault as loose data. -/
def datum (f : Fault) : Datum :=
  .record [("code", .text f.kind.code), ("domain", .text f.kind.domain),
    ("severity", .text f.kind.severity), ("message", .text f.message),
    ("context", .record f.context)]

end Fault

end FeatureFlags
