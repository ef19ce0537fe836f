import FeatureFlags.Rule.Basic

/-! The state of a flag in one environment, and a change of it that is planned for some moment.
-/

namespace FeatureFlags

/-- A planned change. What it leaves open stays as it is. -/
structure ScheduledChange where
  effectiveAt : AwareMoment
  enabled : Option Bool
  defaultValue : Option FlagValue
  percentage : Option Percentage
  rules : Option RuleList
deriving DecidableEq

/-- The state of a flag in one environment. -/
structure FlagState where
  enabled : Bool
  killSwitch : Bool
  killSwitchActivatedAt : Option AwareMoment
  defaultValue : FlagValue
  percentage : Option Percentage
  rules : RuleList
  scheduled : Option ScheduledChange
deriving DecidableEq

namespace ScheduledChange

/-- Reads a planned change. -/
def read : Datum → Checked ScheduledChange :=
  Field.record "ScheduledChange" fun entries =>
    ScheduledChange.mk
      <$> Field.required entries "effective_at" Field.moment
      <*> Field.optional entries "enabled" none (Field.nullable Field.boolean)
      <*> Field.optional entries "default_value" none (Field.nullable FlagValue.read)
      <*> Field.optional entries "rollout_percentage" none (Field.nullable Percentage.read)
      <*> Field.optional entries "rules" none (Field.nullable RuleList.read)

/-- A planned change as loose data. -/
def datum (c : ScheduledChange) : Datum :=
  .record [("effective_at", .text c.effectiveAt.documentText),
    ("enabled", (c.enabled.map .bool).getD .null),
    ("default_value", (c.defaultValue.map FlagValue.datum).getD .null),
    ("rollout_percentage", Percentage.datum c.percentage),
    ("rules", (c.rules.map RuleList.datum).getD .null)]

/-- Whether the moment of a change has come. Only moments with an offset can be compared. -/
def isDue (c : ScheduledChange) (now : Moment) : Except Failure Bool :=
  match c.effectiveAt.le? now with
  | some due => .ok due
  | none => .error .mixedMoments

end ScheduledChange

namespace FlagState

/-- Reads a state. -/
def read : Datum → Checked FlagState :=
  Field.record "FlagEnvironmentState" fun entries =>
    FlagState.mk
      <$> Field.optional entries "enabled" false Field.boolean
      <*> Field.optional entries "kill_switch" false Field.boolean
      <*> Field.optional entries "kill_switch_activated_at" none (Field.nullable Field.moment)
      <*> Field.optional entries "default_value" (.bool false) FlagValue.read
      <*> Field.optional entries "rollout_percentage" none (Field.nullable Percentage.read)
      <*> Field.optional entries "rules" ∅ RuleList.read
      <*> Field.optional entries "scheduled" none (Field.nullable ScheduledChange.read)

/-- A state as loose data. -/
def datum (s : FlagState) : Datum :=
  .record [("enabled", .bool s.enabled), ("kill_switch", .bool s.killSwitch),
    ("kill_switch_activated_at",
      (s.killSwitchActivatedAt.map fun m => .text m.documentText).getD .null),
    ("default_value", s.defaultValue.datum),
    ("rollout_percentage", Percentage.datum s.percentage), ("rules", s.rules.datum),
    ("scheduled", (s.scheduled.map ScheduledChange.datum).getD .null)]

/-- The state after a planned change. -/
def apply (s : FlagState) (change : ScheduledChange) : FlagState :=
  { s with
    enabled := change.enabled.getD s.enabled
    defaultValue := change.defaultValue.getD s.defaultValue
    percentage := change.percentage.or s.percentage
    rules := change.rules.getD s.rules
    scheduled := none }

/-- The change that is due at a moment, if there is one. -/
def due? (s : FlagState) (now : Moment) : Except Failure (Option ScheduledChange) :=
  match s.scheduled with
  | none => .ok none
  | some change => (change.isDue now).map fun due => if due then some change else none

/-- The state that holds at a moment: with the planned change once its moment has come. -/
def effective (s : FlagState) (now : Moment) : Except Failure FlagState :=
  (s.due? now).map fun
    | some change => s.apply change
    | none => s

/-- The planned rules. -/
def scheduledRules (s : FlagState) : List Rule :=
  match s.scheduled.bind (·.rules) with
  | some l => l.rules
  | none => []

/-- All rules, the planned ones last. -/
def allRules (s : FlagState) : List Rule := s.rules.rules ++ s.scheduledRules

/-- All values that the state can give the flag by itself: the defaults and those of the rules. -/
def allValues (s : FlagState) : List FlagValue :=
  s.defaultValue :: (s.scheduled.bind (·.defaultValue)).toList ++ s.allRules.map Rule.value

end FlagState

end FeatureFlags
