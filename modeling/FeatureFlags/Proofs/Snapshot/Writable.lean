import FeatureFlags.Proofs.Field.Number
import FeatureFlags.Proofs.Field.Sources
import FeatureFlags.Proofs.Snapshot.ReadBack

/-! Which snapshots can be written as JSON text. All numbers of a document are bounded or are doubles,
except its version and the priorities of rules, and these must not have too many digits. They have not
if no integer has from which the snapshot was read.
-/

namespace FeatureFlags

open Datum (isOverlong_int_eq_false_iff)

def Rule.Writable (r : Rule) : Prop := r.priority.natAbs < 10 ^ Datum.mostDigits

/-- The version and the priorities of all rules, the planned ones included, can be written out. -/
structure Snapshot.Writable (s : Snapshot) : Prop where
  version : s.version.natAbs < 10 ^ Datum.mostDigits
  rules : ∀ e ∈ s.states.entries, ∀ r ∈ e.2.allRules, r.Writable

namespace Snapshot

-----------------------------------------------------------------------------------------
-- Parts without large integers
-----------------------------------------------------------------------------------------

@[simp] theorem isOverlong_flagValue (v : FlagValue) : v.datum.isOverlong = false := by
  cases v <;> rfl

@[simp] theorem isOverlong_attribute (a : Attribute) : a.datum.isOverlong = false := by
  cases a with
  | texts set => simp [Attribute.datum]
  | _ => rfl

@[simp] theorem isOverlong_percentage (p : Option Percentage)
    : (Percentage.datum p).isOverlong = false := by
  cases p with
  | none => rfl
  | some p =>
      refine @Datum.isOverlong_int_of_lt p.value 3 ?_ (by decide)
      have bound := p.le_hundred
      omega

/-- A part that may be missing is overlong if it is there and is overlong. -/
theorem isOverlong_getD {α : Type} (write : α → Datum) (a : Option α)
    : ((a.map write).getD .null).isOverlong = a.any fun a => (write a).isOverlong := by
  cases a <;> rfl

/-- Leaving nulls out changes nothing, since they hold no integers. -/
@[simp] theorem any_isOverlong_withoutNulls (fields : List (String × Datum))
    : ((withoutNulls fields).any fun e => e.2.isOverlong)
      = fields.any fun e => e.2.isOverlong := by
  rw [withoutNulls, List.any_filter]
  refine List.any_congr rfl fun e => ?_
  cases e.2 with
  | null => rfl
  | _ => exact Bool.true_and _

theorem isOverlong_map {α : Type} {write : α → Datum} {l : List α}
    (each : ∀ a, (write a).isOverlong = false)
    : (Datum.list (l.map write)).isOverlong = false := by
  simp [each]

theorem isOverlong_texts (l : List String) : (Datum.list (l.map .text)).isOverlong = false :=
  isOverlong_map Datum.isOverlong_text

theorem isOverlong_conditionDocument (c : Condition)
    : (conditionDocument c).isOverlong = false := by
  simp [conditionDocument, isOverlong_getD]

theorem isOverlong_segmentDocument (g : Segment) : (segmentDocument g).isOverlong = false := by
  have entry (omitted : Bool) (name : String) {x : Datum} (short : x.isOverlong = false)
      : ((entryUnless omitted name x).any fun e => e.2.isOverlong) = false := by
    cases omitted <;> simp [entryUnless, short]
  have texts (set : TextSet) : (Segment.textsDatum set).isOverlong = false := isOverlong_texts _
  have rules : (Datum.list (g.rules.map fun l => .record
      (entryUnless l.isEmpty "conditions" (.list (l.map conditionDocument))))).isOverlong = false := by
    refine isOverlong_map fun l => ?_
    rw [Datum.isOverlong_record]
    exact entry l.isEmpty "conditions" (isOverlong_map isOverlong_conditionDocument)
  rw [segmentDocument, Datum.isOverlong_record]
  simp only [List.any_append, List.any_cons, List.any_nil, Datum.isOverlong_text,
    entry _ _ (Datum.isOverlong_text _), entry _ _ (texts _), entry _ _ rules, Bool.or_self]

-----------------------------------------------------------------------------------------
-- Parts with priorities
-----------------------------------------------------------------------------------------

theorem isOverlong_ruleListDocument (l : RuleList)
    : (ruleListDocument l).isOverlong = l.rules.any fun r => (Datum.int r.priority).isOverlong := by
  have rule (r : Rule) : (ruleDocument r).isOverlong = (Datum.int r.priority).isOverlong := by
    have conditions : (Datum.list (r.conditions.map conditionDocument)).isOverlong = false :=
      isOverlong_map isOverlong_conditionDocument
    rw [ruleDocument, Datum.isOverlong_record, any_isOverlong_withoutNulls]
    simp only [List.any_cons, List.any_nil, conditions, isOverlong_texts, isOverlong_percentage,
      isOverlong_flagValue, Datum.isOverlong_text, Bool.or_false, Bool.false_or]
  simp only [ruleListDocument, Datum.isOverlong_list, List.any_map, Function.comp_def, rule]

theorem isOverlong_changeDocument (c : ScheduledChange)
    : (changeDocument c).isOverlong
      = c.rules.any fun l => l.rules.any fun r => (Datum.int r.priority).isOverlong := by
  simp [changeDocument, isOverlong_getD, isOverlong_ruleListDocument]

theorem isOverlong_stateDocument (s : FlagState)
    : (stateDocument s).isOverlong
      = s.allRules.any fun r => (Datum.int r.priority).isOverlong := by
  have planned
      : (s.scheduled.any fun c => (changeDocument c).isOverlong)
        = s.scheduledRules.any fun r => (Datum.int r.priority).isOverlong := by
    simp only [isOverlong_changeDocument, FlagState.scheduledRules]
    cases s.scheduled with
    | none => rfl
    | some c => cases rules : c.rules <;> simp [rules]
  rw [FlagState.allRules, List.any_append, ← planned]
  simp [stateDocument, isOverlong_getD, isOverlong_ruleListDocument]

/-- The document of a flag can be written if the priorities in its states can. -/
theorem isOverlong_flagDocument (f : Flag) (states : List (String × FlagState))
    : (flagDocument f states).isOverlong
      = states.any fun e => (stateDocument e.2).isOverlong := by
  rw [flagDocument, Datum.isOverlong_record, List.any_append, Flag.toEntries]
  simp only [List.any_cons, List.any_nil, isOverlong_texts, Datum.isOverlong_text,
    Datum.isOverlong_record, List.any_map, Bool.or_false, Bool.false_or, Function.comp_def]

theorem isOverlong_stateDocument_eq_false_iff {s : FlagState}
    : (stateDocument s).isOverlong = false ↔ ∀ r ∈ s.allRules, r.Writable := by
  rw [isOverlong_stateDocument, List.any_eq_false]
  refine forall₂_congr fun r _ => ?_
  rw [Bool.not_eq_true, isOverlong_int_eq_false_iff, Rule.Writable]

/-- The flags of a document can be written exactly if all states of the snapshot can: each of them is
in the document since it belongs to some flag.
-/
theorem isOverlong_flagDocuments_eq_false_iff {s : Snapshot} (coherent : s.Coherent)
    : (Datum.list (s.flagKeys.filterMap fun key =>
        (s.flags.get? key).map fun f => flagDocument f (s.statesOf key))).isOverlong = false
      ↔ ∀ e ∈ s.states.entries, (stateDocument e.2).isOverlong = false := by
  simp only [← Bool.not_eq_true, Datum.isOverlong_list_iff]
  constructor
  · rintro short ⟨⟨key, environment⟩, state⟩ member long
    obtain ⟨f, found, -⟩ := coherent.states _ member
    have listed : key ∈ s.flagKeys :=
      (List.mergeSort_perm ..).mem_iff.mpr
        (List.mem_map.mpr ⟨_, OrderedMap.get?_eq_some_iff.mp found, rfl⟩)
    refine short ⟨_, List.mem_filterMap.mpr ⟨key, listed, congrArg (Option.map _) found⟩, ?_⟩
    rw [isOverlong_flagDocument, List.any_eq_true]
    exact ⟨(environment, state), mem_statesOf.mpr member, long⟩
  · rintro short ⟨x, member, long⟩
    obtain ⟨key, -, written⟩ := List.mem_filterMap.mp member
    obtain ⟨f, -, rfl⟩ := Option.map_eq_some_iff.mp written
    rw [isOverlong_flagDocument, List.any_eq_true] at long
    obtain ⟨e, stored, long⟩ := long
    exact short _ (mem_statesOf.mp stored) long

theorem isOverlong_segmentDocuments (s : Snapshot)
    : (Datum.list ((ascending s.segments.keys).filterMap fun key =>
        (s.segments.get? key).map segmentDocument)).isOverlong = false := by
  rw [← Bool.not_eq_true, Datum.isOverlong_list_iff]
  rintro ⟨x, member, long⟩
  obtain ⟨key, -, written⟩ := List.mem_filterMap.mp member
  obtain ⟨g, -, rfl⟩ := Option.map_eq_some_iff.mp written
  rw [isOverlong_segmentDocument g] at long
  contradiction

/-- The document of a coherent snapshot can be written exactly if its version and its priorities can. -/
theorem isOverlong_document_eq_false_iff {s : Snapshot} (coherent : s.Coherent)
    : s.document.isOverlong = false ↔ s.Writable := by
  rw [document, Datum.isOverlong_record]
  simp only [List.any_cons, List.any_nil, isOverlong_segmentDocuments, Bool.or_false,
    Bool.or_eq_false_iff, isOverlong_flagDocuments_eq_false_iff coherent,
    isOverlong_int_eq_false_iff, isOverlong_stateDocument_eq_false_iff]
  constructor
  · rintro ⟨version, rules⟩
    exact ⟨version, rules⟩
  · rintro ⟨version, rules⟩
    exact ⟨version, rules⟩

end Snapshot

-----------------------------------------------------------------------------------------
-- What is read from short data
-----------------------------------------------------------------------------------------

/-- No integer in the data has too many digits. -/
def Datum.Short (x : Datum) : Prop := x.isOverlong = false

theorem Datum.short_inherited : Inherited Short where
  fields short e member :=
    Bool.eq_false_iff.mpr fun long =>
      Bool.eq_false_iff.mp short (isOverlong_record_iff.mpr ⟨e, member, long⟩)
  items {x members} short stored y member := by
    refine Bool.eq_false_iff.mpr fun long => Bool.eq_false_iff.mp short ?_
    cases x <;> simp only [items?, Option.some.injEq, reduceCtorEq] at stored
    all_goals exact stored ▸ isOverlong_list_iff.mpr ⟨y, member, long⟩

theorem Rule.writable_of_read {x : Datum} (short : x.Short) {r : Rule} (found : read x = .ok r)
    : r.Writable := by
  obtain ⟨entries, rfl, fields⟩ := read_eq_ok.mp found
  rcases Field.exists_of_optional (Datum.short_inherited.fields short) fields.priority
    with none | ⟨y, shortNumber, readFrom⟩
  · rw [Writable, none]
    exact Nat.pow_pos (by decide)
  · exact Field.natAbs_lt_of_integer shortNumber readFrom

theorem RuleList.writable_of_read {x : Datum} (short : x.Short) {l : RuleList}
    (found : read x = .ok l)
    : ∀ r ∈ l.rules, r.Writable := by
  obtain ⟨rules, read, rfl⟩ := Checked.map_eq_ok.mp found
  intro r member
  have given : r ∈ rules := (List.mergeSort_perm ..).mem_iff.mp member
  obtain ⟨y, shortRule, readFrom⟩ :=
    Field.exists_of_tuple Datum.short_inherited short read given
  exact Rule.writable_of_read shortRule readFrom

/-- The planned rules are read from the planned change, the others from the state itself. -/
theorem FlagState.writable_of_read {x : Datum} (short : x.Short) {s : FlagState}
    (found : read x = .ok s)
    : ∀ r ∈ s.allRules, r.Writable := by
  obtain ⟨entries, rfl, fields⟩ := read_eq_ok.mp found
  have each := Datum.short_inherited.fields short
  intro r member
  rcases List.mem_append.mp member with present | planned
  · rcases Field.exists_of_optional each fields.rules with none | ⟨y, shortRules, readFrom⟩
    · rw [none] at present
      exact absurd present List.not_mem_nil
    · exact RuleList.writable_of_read shortRules readFrom r present
  · unfold scheduledRules at planned
    split at planned
    · next l given =>
        obtain ⟨change, scheduled, rules⟩ := Option.bind_eq_some_iff.mp given
        obtain ⟨y, shortChange, readFrom⟩ :=
          Field.exists_of_nullable each fields.scheduled scheduled
        obtain ⟨inner, rfl, changeFields⟩ := ScheduledChange.read_eq_ok.mp readFrom
        obtain ⟨z, shortRules, readFrom⟩ :=
          Field.exists_of_nullable (Datum.short_inherited.fields shortChange) changeFields.rules
            rules
        exact RuleList.writable_of_read shortRules readFrom r planned
    · exact absurd planned List.not_mem_nil

/-- A snapshot can be written if it is parsed from data without too many digits. -/
theorem Snapshot.writable_of_parse {x : Datum} (short : x.Short) {s : Snapshot}
    (parsed : (parse x).result = .ok s)
    : s.Writable := by
  unfold parse at parsed
  split at parsed
  · next d found =>
      obtain ⟨entries, rfl, fields⟩ := Document.read_eq_ok.mp found
      have each := Datum.short_inherited.fields short
      obtain ⟨⟨version, -⟩, -, parts⟩ := (build_eq_ok_iff ..).mp parsed
      refine ⟨?_, ?_⟩
      · obtain ⟨y, shortVersion, readFrom⟩ := Field.exists_of_required each fields.version
        rw [← Checked.ok.inj version]
        exact Field.natAbs_lt_of_integer shortVersion (Checked.refuseIf_eq_ok.mp readFrom).1
      · intro e member
        rw [parts.states] at member
        obtain ⟨document, listed, given⟩ := List.mem_flatMap.mp member
        obtain ⟨state, stored, rfl⟩ := List.mem_map.mp given
        obtain ⟨y, shortFlag, readFlag⟩ :=
          Field.exists_of_optional_list Datum.short_inherited each fields.flags listed
        obtain ⟨inner, rfl, -, states⟩ := FlagDocument.read_eq_ok.mp readFlag
        rcases Field.exists_of_optional (Datum.short_inherited.fields shortFlag) states
          with none | ⟨z, shortStates, readStates⟩
        · rw [none] at stored
          exact absurd stored List.not_mem_nil
        · obtain ⟨y, shortState, readFrom⟩ :=
            Field.exists_of_mapping Datum.short_inherited shortStates readStates stored
          exact FlagState.writable_of_read shortState readFrom
  · contradiction
  · contradiction

end FeatureFlags
