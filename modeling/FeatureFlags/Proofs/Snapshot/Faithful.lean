import FeatureFlags.Proofs.Json.Documents
import FeatureFlags.Proofs.Snapshot.Ascending
import FeatureFlags.Snapshot.Document

/-! The document of a snapshot is data that JSON text holds without loss: no record in it has a name
twice, and no number in it is the value that is not a number.
-/

namespace FeatureFlags

namespace Json.Faithful

/-- Fields may be left out. -/
theorem part {fields all : List (String × Datum)} (faithful : Faithful (.record all))
    (kept : fields.Sublist all)
    : Faithful (.record fields) := by
  cases faithful with
  | record distinct each =>
      exact .record (distinct.sublist (kept.map Prod.fst)) fun e member =>
        each e (kept.subset member)

theorem map {α : Type} {write : α → Datum} {l : List α} (each : ∀ a ∈ l, Faithful (write a))
    : Faithful (.list (l.map write)) := by
  refine .list ?_
  intro x member
  obtain ⟨a, given, rfl⟩ := List.mem_map.mp member
  exact each a given

theorem filterMap {α : Type} {write : α → Option Datum} {l : List α}
    (each : ∀ a ∈ l, ∀ x, write a = some x → Faithful x)
    : Faithful (.list (l.filterMap write)) := by
  refine .list ?_
  intro x member
  obtain ⟨a, given, written⟩ := List.mem_filterMap.mp member
  exact each a given x written

theorem texts (l : List String) : Faithful (.list (l.map .text)) := map fun s _ => .text s

/-- A value that may be missing is written as null where it is. -/
theorem getD {α : Type} {write : α → Datum} (each : ∀ a, Faithful (write a)) (a : Option α)
    : Faithful ((a.map write).getD .null) := by
  cases a with
  | none => exact .null
  | some b => exact each b

theorem ofFlagValue (v : FlagValue) : Faithful v.datum := by
  cases v with
  | bool b => exact .bool b
  | text s => exact .text s

theorem ofAttribute (a : Attribute) : Faithful a.datum := by
  cases a with
  | bool b => exact .bool b
  | number x => exact .double x.notNaN
  | text s => exact .text s
  | texts set => exact texts set.elements

theorem ofPercentage (p : Option Percentage) : Faithful (Percentage.datum p) :=
  getD (fun p : Percentage => .int p.value) p

end Json.Faithful

namespace Snapshot

open Json (Faithful)

theorem withoutNulls_sublist (fields : List (String × Datum))
    : (withoutNulls fields).Sublist fields :=
  List.filter_sublist

theorem entryUnless_sublist (omitted : Bool) (name : String) (x : Datum)
    : (entryUnless omitted name x).Sublist [(name, x)] := by
  cases omitted with
  | true => exact List.nil_sublist _
  | false => exact List.Sublist.refl _

-----------------------------------------------------------------------------------------
-- Conditions, rules and states
-----------------------------------------------------------------------------------------

theorem faithful_conditionDocument (c : Condition) : Faithful (conditionDocument c) := by
  have value : Faithful ((c.value.map Attribute.datum).getD .null) := .getD .ofAttribute c.value
  refine Faithful.part (.record ?_ ?_) (withoutNulls_sublist _)
  · simp
  · simp [Faithful.text, value]

theorem faithful_conditions (conditions : List Condition)
    : Faithful (.list (conditions.map conditionDocument)) :=
  .map fun c _ => faithful_conditionDocument c

theorem faithful_ruleDocument (r : Rule) : Faithful (ruleDocument r) := by
  have conditions := faithful_conditions r.conditions
  refine Faithful.part (.record ?_ ?_) (withoutNulls_sublist _)
  · simp
  · simp [Faithful.text, Faithful.int, Faithful.texts, Faithful.ofPercentage, Faithful.ofFlagValue,
      conditions]

theorem faithful_ruleListDocument (l : RuleList) : Faithful (ruleListDocument l) :=
  .map fun r _ => faithful_ruleDocument r

theorem faithful_changeDocument (c : ScheduledChange) : Faithful (changeDocument c) := by
  have enabled : Faithful ((c.enabled.map .bool).getD .null) := .getD .bool c.enabled
  have value : Faithful ((c.defaultValue.map FlagValue.datum).getD .null) :=
    .getD .ofFlagValue c.defaultValue
  have rules : Faithful ((c.rules.map ruleListDocument).getD .null) :=
    .getD faithful_ruleListDocument c.rules
  refine Faithful.part (.record ?_ ?_) (withoutNulls_sublist _)
  · simp
  · simp [Faithful.text, Faithful.ofPercentage, enabled, value, rules]

theorem faithful_stateDocument (s : FlagState) : Faithful (stateDocument s) := by
  have activated : Faithful
      ((s.killSwitchActivatedAt.map fun m => .text m.documentText).getD .null) :=
    .getD (fun m : AwareMoment => .text m.documentText) s.killSwitchActivatedAt
  have scheduled : Faithful ((s.scheduled.map changeDocument).getD .null) :=
    .getD faithful_changeDocument s.scheduled
  have rules := faithful_ruleListDocument s.rules
  refine Faithful.part (.record ?_ ?_) (withoutNulls_sublist _)
  · simp
  · simp [Faithful.bool, Faithful.ofPercentage, Faithful.ofFlagValue, activated, scheduled, rules]

-----------------------------------------------------------------------------------------
-- Flags and segments
-----------------------------------------------------------------------------------------

theorem faithful_flagDocument (f : Flag) {states : List (String × FlagState)}
    (distinct : (states.map Prod.fst).Nodup)
    : Faithful (flagDocument f states) := by
  have environments : Faithful (.record (states.map fun e => (e.1, stateDocument e.2))) := by
    refine .record ?_ ?_
    · simpa [Function.comp_def] using distinct
    · intro e member
      obtain ⟨state, given, rfl⟩ := List.mem_map.mp member
      exact faithful_stateDocument state.2
  refine .record ?_ ?_
  · simp [Flag.toEntries]
  · simp [Flag.toEntries, Faithful.text, Faithful.texts, environments]

theorem faithful_segmentRule (conditions : List Condition)
    : Faithful (.record (entryUnless conditions.isEmpty "conditions"
        (.list (conditions.map conditionDocument)))) := by
  refine Faithful.part (.record ?_ ?_) (entryUnless_sublist ..)
  · simp
  · simp [faithful_conditions]

theorem faithful_segmentDocument (s : Segment) : Faithful (segmentDocument s) := by
  have rules : Faithful (.list (s.rules.map fun conditions =>
      .record (entryUnless conditions.isEmpty "conditions"
        (.list (conditions.map conditionDocument))))) :=
    .map fun conditions _ => faithful_segmentRule conditions
  have sets (set : TextSet) : Faithful (Segment.textsDatum set) := .texts set.elements
  have kept := ((((List.Sublist.refl [("key", Datum.text s.key)]).append
    (entryUnless_sublist s.name.isEmpty "name" (.text s.name))).append
    (entryUnless_sublist s.description.isEmpty "description" (.text s.description))).append
    (entryUnless_sublist s.included.isEmpty "included" (Segment.textsDatum s.included))).append
    (entryUnless_sublist s.excluded.isEmpty "excluded" (Segment.textsDatum s.excluded))
  refine Faithful.part (.record ?_ ?_) (kept.append (entryUnless_sublist s.rules.isEmpty "rules" _))
  · simp
  · simp [Faithful.text, sets, rules]

/-- The document of every snapshot can be written as JSON without loss. -/
theorem faithful_document (s : Snapshot) : Faithful s.document := by
  have flags : Faithful (.list (s.flagKeys.filterMap fun key =>
      (s.flags.get? key).map fun f => flagDocument f (s.statesOf key))) := by
    refine .filterMap ?_
    intro key _ x written
    obtain ⟨f, -, rfl⟩ := Option.map_eq_some_iff.mp written
    exact faithful_flagDocument f (s.nodup_statesOf key)
  have segments : Faithful (.list ((ascending s.segments.keys).filterMap fun key =>
      (s.segments.get? key).map segmentDocument)) := by
    refine .filterMap ?_
    intro key _ x written
    obtain ⟨g, -, rfl⟩ := Option.map_eq_some_iff.mp written
    exact faithful_segmentDocument g
  refine .record ?_ ?_
  · simp
  · simp [Faithful.int, flags, segments]

end Snapshot

end FeatureFlags
