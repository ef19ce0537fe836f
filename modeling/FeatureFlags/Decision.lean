import FeatureFlags.Flag.Value

/-! Decisions: the value that a flag has for an entity, and why it has it.
-/

namespace FeatureFlags

/-- Why a flag has the value that it has. -/
inductive Reason where
  | killSwitch
  | flagDisabled
  | ruleMatch
  | rolloutBucket
  | default
  | flagNotFound
  | typeMismatch
deriving DecidableEq, Repr

namespace Reason

def all : List Reason :=
  [killSwitch, flagDisabled, ruleMatch, rolloutBucket, default, flagNotFound, typeMismatch]

/-- The word for a reason. -/
def word : Reason → String
  | killSwitch => "kill_switch"
  | flagDisabled => "flag_disabled"
  | ruleMatch => "rule_match"
  | rolloutBucket => "rollout_bucket"
  | default => "default"
  | flagNotFound => "flag_not_found"
  | typeMismatch => "type_mismatch"

/-- Reads the word for a reason. -/
def read (x : Datum) : Except Failure Reason :=
  match x.text?.bind fun s => all.find? fun r => r.word == s with
  | some r => .ok r
  | none => .error (.wrongValue (x.literal ++ " is not a valid EvaluationReason"))

/-- Reasons for which a feature counts as off, whatever the value. -/
def neverEnabled : Reason → Bool
  | killSwitch | flagDisabled | flagNotFound | typeMismatch => true
  | _ => false

end Reason

/-- The value of a flag for an entity. -/
structure Decision where
  flagKey : String
  /-- A value of the flag, or whatever the caller wants to have for a missing flag. -/
  value : Datum
  reason : Reason
  /-- The rule that decided. -/
  ruleId : Option String
  /-- Whether the entity takes part in the rollout that decided. -/
  inRollout : Option Bool
  snapshotVersion : Option Int

namespace Decision

/-- Whether the feature counts as on. It is off for entities outside of a rollout, even if the flag
has a text as its value. -/
def isEnabled (d : Decision) : Bool :=
  !d.reason.neverEnabled && d.inRollout != some false && d.value.isTrue

/-- A decision as loose data. -/
def datum (d : Decision) : Datum :=
  .record [("flag_key", .text d.flagKey), ("value", d.value), ("reason", .text d.reason.word),
    ("rule_id", (d.ruleId.map .text).getD .null),
    ("in_rollout", (d.inRollout.map .bool).getD .null),
    ("snapshot_version", (d.snapshotVersion.map .int).getD .null)]

end Decision

end FeatureFlags
