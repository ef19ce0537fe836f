import FeatureFlags.Snapshot.Build

/-! Documents of snapshots. A document lists the flags, each with its states by environment, and the
segments. Reading one reports all issues with its fields together; only then are the parts put
together.
-/

namespace FeatureFlags.Snapshot

/-- A flag with its states by environment. -/
structure FlagDocument where
  flag : Flag
  states : OrderedMap String FlagState

/-- The parts of a snapshot as a document lists them. -/
structure Document where
  version : Int
  flags : List FlagDocument
  segments : List Segment

/-- Reads a flag with its states. -/
def FlagDocument.read : Datum → Checked FlagDocument :=
  Field.record "FlagDocument" fun entries =>
    FlagDocument.mk
      <$> Flag.ofEntries entries
      <*> Field.optional entries "environments" ∅ (Field.mapping FlagState.read)

/-- Reads a document. -/
def Document.read : Datum → Checked Document :=
  Field.record "SnapshotDocument" fun entries =>
    Document.mk
      <$> Field.required entries "version" readVersion
      <*> Field.optional entries "flags" [] (Field.list FlagDocument.read)
      <*> Field.optional entries "segments" [] (Field.list Segment.read)

/-- The states that a document lists, with the keys of their flags. -/
def Document.states (d : Document) : List ((String × String) × FlagState) :=
  d.flags.flatMap fun f => f.states.entries.map fun e => ((f.flag.key, e.1), e.2)

/-- The fault of a document with issues. -/
def invalidDocument (issues : List Issue) : Failure :=
  .fault (.of .snapshotInvalid
    ("invalid snapshot document: " ++ toString issues.length ++ " error(s)")
    [("errors", .list (issues.map Issue.datum))])

/-- The snapshot that a document describes. -/
def parse (x : Datum) : Traced Snapshot :=
  match Document.read x with
  | .ok d => build (.int d.version) (d.flags.map FlagDocument.flag) d.states d.segments
  | .issues issues => .fail (invalidDocument issues)
  | .failure failure => .fail failure

/-! ### Writing -/

/-- The entries of a record whose values are not null. -/
def withoutNulls (entries : List (String × Datum)) : List (String × Datum) :=
  entries.filter fun e => !e.2.isNull

/-- A condition in a document. -/
def conditionDocument (c : Condition) : Datum :=
  .record (withoutNulls [("attribute", .text c.name), ("operator", .text c.operator.word),
    ("value", (c.value.map Attribute.datum).getD .null)])

/-- A rule in a document. -/
def ruleDocument (r : Rule) : Datum :=
  .record (withoutNulls [("id", .text r.id), ("priority", .int r.priority),
    ("conditions", .list (r.conditions.map conditionDocument)),
    ("segments", .list (r.segments.map .text)),
    ("excluded_segments", .list (r.excludedSegments.map .text)),
    ("rollout_percentage", Percentage.datum r.percentage), ("value", r.value.datum),
    ("description", .text r.description)])

def ruleListDocument (l : RuleList) : Datum := .list (l.rules.map ruleDocument)

/-- A planned change in a document. -/
def changeDocument (c : ScheduledChange) : Datum :=
  .record (withoutNulls [("effective_at", .text c.effectiveAt.documentText),
    ("enabled", (c.enabled.map .bool).getD .null),
    ("default_value", (c.defaultValue.map FlagValue.datum).getD .null),
    ("rollout_percentage", Percentage.datum c.percentage),
    ("rules", (c.rules.map ruleListDocument).getD .null)])

/-- A state in a document. -/
def stateDocument (s : FlagState) : Datum :=
  .record (withoutNulls [("enabled", .bool s.enabled), ("kill_switch", .bool s.killSwitch),
    ("kill_switch_activated_at",
      (s.killSwitchActivatedAt.map fun m => .text m.documentText).getD .null),
    ("default_value", s.defaultValue.datum),
    ("rollout_percentage", Percentage.datum s.percentage),
    ("rules", ruleListDocument s.rules),
    ("scheduled", (s.scheduled.map changeDocument).getD .null)])

/-- A flag with its states in a document. -/
def flagDocument (f : Flag) (states : List (String × FlagState)) : Datum :=
  .record (f.toEntries ++
    [("environments", .record (states.map fun e => (e.1, stateDocument e.2)))])

/-- An entry of a record, unless its value is the default. -/
def entryUnless (isDefault : Bool) (name : String) (x : Datum) : List (String × Datum) :=
  if isDefault then [] else [(name, x)]

/-- A segment in a document, without fields that have their default values. -/
def segmentDocument (s : Segment) : Datum :=
  .record ([("key", .text s.key)] ++ entryUnless s.name.isEmpty "name" (.text s.name) ++
    entryUnless s.description.isEmpty "description" (.text s.description) ++
    entryUnless s.included.isEmpty "included" (Segment.textsDatum s.included) ++
    entryUnless s.excluded.isEmpty "excluded" (Segment.textsDatum s.excluded) ++
    entryUnless s.rules.isEmpty "rules" (.list (s.rules.map fun conditions =>
      .record (entryUnless conditions.isEmpty "conditions"
        (.list (conditions.map conditionDocument))))))

/-- The document of a snapshot, everything in the order of keys. -/
def document (s : Snapshot) : Datum :=
  .record [("version", .int s.version),
    ("flags", .list (s.flagKeys.filterMap fun key =>
      (s.flags.get? key).map fun f => flagDocument f (s.statesOf key))),
    ("segments", .list ((ascending s.segments.keys).filterMap fun key =>
      (s.segments.get? key).map segmentDocument))]

/-- Whether two maps have the same entries, in whatever order. -/
def sameEntries {κ α : Type} [DecidableEq κ] [DecidableEq α] (a b : OrderedMap κ α) : Bool :=
  a.size == b.size && a.entries.all fun e => b.get? e.1 == some e.2

end FeatureFlags.Snapshot
