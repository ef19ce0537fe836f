import FeatureFlags.Proofs.Field.Checked
import FeatureFlags.Snapshot.Document

/-! What the readers of documents take from the fields of a record. A record is read exactly when each
of its fields is, so later proofs look at one field at a time.
-/

namespace FeatureFlags

open Checked (map_eq_ok seq_eq_ok)
open FeatureFlags.Field (record_eq_ok)

-----------------------------------------------------------------------------------------
-- Conditions and rules
-----------------------------------------------------------------------------------------

/-- The fields of a record are read as those of the condition. -/
structure Condition.ReadFrom (entries : List (String × Datum)) (c : Condition) : Prop where
  name : Field.required entries "attribute" Field.properText = .ok c.name
  operator
    : Field.required entries "operator" (Field.word (Operator.all.map fun op => (op.word, op)))
      = .ok c.operator
  value : Field.optional entries "value" none readValue = .ok c.value

theorem Condition.read_eq_ok {x : Datum} {c : Condition}
    : read x = .ok c ↔ ∃ entries, x = .record entries ∧ ReadFrom entries c := by
  simp only [read, record_eq_ok, seq_eq_ok, map_eq_ok]
  constructor
  · rintro ⟨entries, rfl, _, ⟨_, ⟨_, name, rfl⟩, _, operator, rfl⟩, _, value, rfl⟩
    exact ⟨entries, rfl, name, operator, value⟩
  · rintro ⟨entries, rfl, name, operator, value⟩
    exact ⟨entries, rfl, _, ⟨_, ⟨_, name, rfl⟩, _, operator, rfl⟩, _, value, rfl⟩

/-- The fields of a record are read as those of the rule. -/
structure Rule.ReadFrom (entries : List (String × Datum)) (r : Rule) : Prop where
  id : Field.required entries "id" Field.properText = .ok r.id
  priority : Field.optional entries "priority" 0 Field.integer = .ok r.priority
  conditions
    : Field.optional entries "conditions" [] (Field.tuple Condition.read) = .ok r.conditions
  segments : Field.optional entries "segments" [] (Field.tuple Field.text) = .ok r.segments
  excludedSegments
    : Field.optional entries "excluded_segments" [] (Field.tuple Field.text)
      = .ok r.excludedSegments
  percentage
    : Field.optional entries "rollout_percentage" none (Field.nullable Percentage.read)
      = .ok r.percentage
  value : Field.required entries "value" FlagValue.read = .ok r.value
  description : Field.optional entries "description" "" Field.text = .ok r.description

theorem Rule.read_eq_ok {x : Datum} {r : Rule}
    : read x = .ok r ↔ ∃ entries, x = .record entries ∧ ReadFrom entries r := by
  simp only [read, record_eq_ok, seq_eq_ok, map_eq_ok]
  constructor
  · rintro ⟨entries, rfl, _, ⟨_, ⟨_, ⟨_, ⟨_, ⟨_, ⟨_, ⟨_, id, rfl⟩, _, priority, rfl⟩, _, conditions,
      rfl⟩, _, segments, rfl⟩, _, excluded, rfl⟩, _, percentage, rfl⟩, _, value, rfl⟩, _,
      description, rfl⟩
    exact ⟨entries, rfl, id, priority, conditions, segments, excluded, percentage, value,
      description⟩
  · rintro ⟨entries, rfl, id, priority, conditions, segments, excluded, percentage, value,
      description⟩
    exact ⟨entries, rfl, _, ⟨_, ⟨_, ⟨_, ⟨_, ⟨_, ⟨_, ⟨_, id, rfl⟩, _, priority, rfl⟩, _, conditions,
      rfl⟩, _, segments, rfl⟩, _, excluded, rfl⟩, _, percentage, rfl⟩, _, value, rfl⟩, _,
      description, rfl⟩

-----------------------------------------------------------------------------------------
-- States
-----------------------------------------------------------------------------------------

/-- The fields of a record are read as those of the planned change. -/
structure ScheduledChange.ReadFrom (entries : List (String × Datum)) (c : ScheduledChange)
    : Prop where
  effectiveAt : Field.required entries "effective_at" Field.moment = .ok c.effectiveAt
  enabled : Field.optional entries "enabled" none (Field.nullable Field.boolean) = .ok c.enabled
  defaultValue
    : Field.optional entries "default_value" none (Field.nullable FlagValue.read)
      = .ok c.defaultValue
  percentage
    : Field.optional entries "rollout_percentage" none (Field.nullable Percentage.read)
      = .ok c.percentage
  rules : Field.optional entries "rules" none (Field.nullable RuleList.read) = .ok c.rules

theorem ScheduledChange.read_eq_ok {x : Datum} {c : ScheduledChange}
    : read x = .ok c ↔ ∃ entries, x = .record entries ∧ ReadFrom entries c := by
  simp only [read, record_eq_ok, seq_eq_ok, map_eq_ok]
  constructor
  · rintro ⟨entries, rfl, _, ⟨_, ⟨_, ⟨_, ⟨_, effectiveAt, rfl⟩, _, enabled, rfl⟩, _, defaultValue,
      rfl⟩, _, percentage, rfl⟩, _, rules, rfl⟩
    exact ⟨entries, rfl, effectiveAt, enabled, defaultValue, percentage, rules⟩
  · rintro ⟨entries, rfl, effectiveAt, enabled, defaultValue, percentage, rules⟩
    exact ⟨entries, rfl, _, ⟨_, ⟨_, ⟨_, ⟨_, effectiveAt, rfl⟩, _, enabled, rfl⟩, _, defaultValue,
      rfl⟩, _, percentage, rfl⟩, _, rules, rfl⟩

/-- The fields of a record are read as those of the state. -/
structure FlagState.ReadFrom (entries : List (String × Datum)) (s : FlagState) : Prop where
  enabled : Field.optional entries "enabled" false Field.boolean = .ok s.enabled
  killSwitch : Field.optional entries "kill_switch" false Field.boolean = .ok s.killSwitch
  killSwitchActivatedAt
    : Field.optional entries "kill_switch_activated_at" none (Field.nullable Field.moment)
      = .ok s.killSwitchActivatedAt
  defaultValue
    : Field.optional entries "default_value" (.bool false) FlagValue.read = .ok s.defaultValue
  percentage
    : Field.optional entries "rollout_percentage" none (Field.nullable Percentage.read)
      = .ok s.percentage
  rules : Field.optional entries "rules" ∅ RuleList.read = .ok s.rules
  scheduled
    : Field.optional entries "scheduled" none (Field.nullable ScheduledChange.read)
      = .ok s.scheduled

theorem FlagState.read_eq_ok {x : Datum} {s : FlagState}
    : read x = .ok s ↔ ∃ entries, x = .record entries ∧ ReadFrom entries s := by
  simp only [read, record_eq_ok, seq_eq_ok, map_eq_ok]
  constructor
  · rintro ⟨entries, rfl, _, ⟨_, ⟨_, ⟨_, ⟨_, ⟨_, ⟨_, enabled, rfl⟩, _, killSwitch, rfl⟩, _,
      activatedAt, rfl⟩, _, defaultValue, rfl⟩, _, percentage, rfl⟩, _, rules, rfl⟩, _, scheduled,
      rfl⟩
    exact ⟨entries, rfl, enabled, killSwitch, activatedAt, defaultValue, percentage, rules,
      scheduled⟩
  · rintro ⟨entries, rfl, enabled, killSwitch, activatedAt, defaultValue, percentage, rules,
      scheduled⟩
    exact ⟨entries, rfl, _, ⟨_, ⟨_, ⟨_, ⟨_, ⟨_, ⟨_, enabled, rfl⟩, _, killSwitch, rfl⟩, _,
      activatedAt, rfl⟩, _, defaultValue, rfl⟩, _, percentage, rfl⟩, _, rules, rfl⟩, _, scheduled,
      rfl⟩

-----------------------------------------------------------------------------------------
-- Segments and flags
-----------------------------------------------------------------------------------------

/-- The fields of a record are read as those of the segment. -/
structure Segment.ReadFrom (entries : List (String × Datum)) (s : Segment) : Prop where
  key : Field.required entries "key" Field.properText = .ok s.key
  name : Field.optional entries "name" "" Field.text = .ok s.name
  description : Field.optional entries "description" "" Field.text = .ok s.description
  included : Field.optional entries "included" ∅ Field.textSet = .ok s.included
  excluded : Field.optional entries "excluded" ∅ Field.textSet = .ok s.excluded
  rules : Field.optional entries "rules" [] (Field.tuple readRule) = .ok s.rules

theorem Segment.read_eq_ok {x : Datum} {s : Segment}
    : read x = .ok s ↔ ∃ entries, x = .record entries ∧ ReadFrom entries s := by
  simp only [read, record_eq_ok, seq_eq_ok, map_eq_ok]
  constructor
  · rintro ⟨entries, rfl, _, ⟨_, ⟨_, ⟨_, ⟨_, ⟨_, key, rfl⟩, _, name, rfl⟩, _, description, rfl⟩, _,
      included, rfl⟩, _, excluded, rfl⟩, _, rules, rfl⟩
    exact ⟨entries, rfl, key, name, description, included, excluded, rules⟩
  · rintro ⟨entries, rfl, key, name, description, included, excluded, rules⟩
    exact ⟨entries, rfl, _, ⟨_, ⟨_, ⟨_, ⟨_, ⟨_, key, rfl⟩, _, name, rfl⟩, _, description, rfl⟩, _,
      included, rfl⟩, _, excluded, rfl⟩, _, rules, rfl⟩

/-- The fields of a record are read as those of the flag. -/
structure Flag.ReadFrom (entries : List (String × Datum)) (f : Flag) : Prop where
  key : Field.required entries "key" Field.text = .ok f.key
  kind
    : Field.optional entries (kindField entries) .boolean
        (Field.word ([Kind.boolean, Kind.text].map fun k => (k.word, k)))
      = .ok f.kind
  variants : Field.optional entries "variants" [] readVariants = .ok f.variants
  name : Field.optional entries "name" "" Field.text = .ok f.name
  description : Field.optional entries "description" "" Field.text = .ok f.description
  tags : Field.optional entries "tags" [] (Field.tuple Field.text) = .ok f.tags

theorem Flag.ofEntries_eq_ok {entries : List (String × Datum)} {f : Flag}
    : ofEntries entries = .ok f ↔ ReadFrom entries f := by
  simp only [ofEntries, seq_eq_ok, map_eq_ok]
  constructor
  · rintro ⟨_, ⟨_, ⟨_, ⟨_, ⟨_, ⟨_, key, rfl⟩, _, kind, rfl⟩, _, variants, rfl⟩, _, name, rfl⟩, _,
      description, rfl⟩, _, tags, rfl⟩
    exact ⟨key, kind, variants, name, description, tags⟩
  · rintro ⟨key, kind, variants, name, description, tags⟩
    exact ⟨_, ⟨_, ⟨_, ⟨_, ⟨_, ⟨_, key, rfl⟩, _, kind, rfl⟩, _, variants, rfl⟩, _, name, rfl⟩, _,
      description, rfl⟩, _, tags, rfl⟩

-----------------------------------------------------------------------------------------
-- Documents
-----------------------------------------------------------------------------------------

namespace Snapshot

theorem FlagDocument.read_eq_ok {x : Datum} {d : FlagDocument}
    : FlagDocument.read x = .ok d
      ↔ ∃ entries, x = .record entries
        ∧ Flag.ofEntries entries = .ok d.flag
        ∧ Field.optional entries "environments" ∅ (Field.mapping FlagState.read)
          = .ok d.states := by
  simp only [FlagDocument.read, record_eq_ok, seq_eq_ok, map_eq_ok]
  constructor
  · rintro ⟨entries, rfl, _, ⟨_, flag, rfl⟩, _, states, rfl⟩
    exact ⟨entries, rfl, flag, states⟩
  · rintro ⟨entries, rfl, flag, states⟩
    exact ⟨entries, rfl, _, ⟨_, flag, rfl⟩, _, states, rfl⟩

/-- The fields of a record are read as the parts of the document. -/
structure Document.ReadFrom (entries : List (String × Datum)) (d : Document) : Prop where
  version : Field.required entries "version" readVersion = .ok d.version
  flags : Field.optional entries "flags" [] (Field.list FlagDocument.read) = .ok d.flags
  segments : Field.optional entries "segments" [] (Field.list Segment.read) = .ok d.segments

theorem Document.read_eq_ok {x : Datum} {d : Document}
    : Document.read x = .ok d ↔ ∃ entries, x = .record entries ∧ ReadFrom entries d := by
  simp only [Document.read, record_eq_ok, seq_eq_ok, map_eq_ok]
  constructor
  · rintro ⟨entries, rfl, _, ⟨_, ⟨_, version, rfl⟩, _, flags, rfl⟩, _, segments, rfl⟩
    exact ⟨entries, rfl, version, flags, segments⟩
  · rintro ⟨entries, rfl, version, flags, segments⟩
    exact ⟨entries, rfl, _, ⟨_, ⟨_, version, rfl⟩, _, flags, rfl⟩, _, segments, rfl⟩

end Snapshot

end FeatureFlags
