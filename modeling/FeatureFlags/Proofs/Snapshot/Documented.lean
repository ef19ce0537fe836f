import FeatureFlags.Proofs.Calendar.Reading
import FeatureFlags.Proofs.Field.Sources
import FeatureFlags.Proofs.Flag.Variants
import FeatureFlags.Proofs.Snapshot.Building
import FeatureFlags.Proofs.Snapshot.Fields

/-! What a snapshot has to meet so that a document can hold it, and that everything which is read from
plain data meets it: names are not empty, moments have offsets of whole minutes, and no variant is
given twice.
-/

namespace FeatureFlags

-----------------------------------------------------------------------------------------
-- What documents can hold
-----------------------------------------------------------------------------------------

def Condition.Documented (c : Condition) : Prop := c.name ≠ ""

structure Rule.Documented (r : Rule) : Prop where
  id : r.id ≠ ""
  conditions : ∀ c ∈ r.conditions, c.Documented

def RuleList.Documented (l : RuleList) : Prop := ∀ r ∈ l.rules, r.Documented

structure ScheduledChange.Documented (c : ScheduledChange) : Prop where
  effectiveAt : c.effectiveAt.toMoment.Documented
  rules : ∀ l, c.rules = some l → l.Documented

structure FlagState.Documented (s : FlagState) : Prop where
  killSwitchActivatedAt : ∀ m, s.killSwitchActivatedAt = some m → m.toMoment.Documented
  rules : s.rules.Documented
  scheduled : ∀ c, s.scheduled = some c → c.Documented

structure Segment.Documented (s : Segment) : Prop where
  key : s.key ≠ ""
  rules : ∀ conditions ∈ s.rules, ∀ c ∈ conditions, c.Documented

def Flag.Documented (f : Flag) : Prop := f.variants.Nodup

/-- A document can hold all parts of the snapshot. -/
structure Snapshot.Documented (s : Snapshot) : Prop where
  flags : ∀ e ∈ s.flags.entries, e.2.Documented
  states : ∀ e ∈ s.states.entries, e.2.Documented
  segments : ∀ e ∈ s.segments.entries, e.2.Documented

namespace Field

theorem ne_empty_of_properText {x : Datum} {s : String} (found : properText x = .ok s)
    : s ≠ "" := by
  rw [properText, Checked.refuseIf_eq_ok] at found
  rintro rfl
  exact absurd found.2 (by simp)

end Field

-----------------------------------------------------------------------------------------
-- What is read from plain data
-----------------------------------------------------------------------------------------

theorem Condition.documented_of_read {x : Datum} {c : Condition} (found : Condition.read x = .ok c)
    : c.Documented := by
  obtain ⟨entries, rfl, fields⟩ := Condition.read_eq_ok.mp found
  obtain ⟨x, -, name⟩ := Field.required_eq_ok.mp fields.name
  exact Field.ne_empty_of_properText name

theorem Rule.documented_of_read {x : Datum} (plain : x.Plain) {r : Rule}
    (found : Rule.read x = .ok r)
    : r.Documented := by
  obtain ⟨entries, rfl, fields⟩ := Rule.read_eq_ok.mp found
  obtain ⟨x, -, id⟩ := Field.required_eq_ok.mp fields.id
  refine ⟨Field.ne_empty_of_properText id, ?_⟩
  intro c member
  obtain ⟨y, -, read⟩ := Field.exists_of_optional_tuple Datum.plain_inherited plain.fields fields.conditions member
  exact Condition.documented_of_read read

theorem RuleList.documented_of_read {x : Datum} (plain : x.Plain) {l : RuleList}
    (found : RuleList.read x = .ok l)
    : l.Documented := by
  obtain ⟨rules, read, rfl⟩ := Checked.map_eq_ok.mp found
  intro r member
  have given : r ∈ rules := (List.mergeSort_perm ..).mem_iff.mp member
  obtain ⟨y, plain, readFrom⟩ := Field.exists_of_tuple Datum.plain_inherited plain read given
  exact Rule.documented_of_read plain readFrom

theorem ScheduledChange.documented_of_read {x : Datum} (plain : x.Plain) {c : ScheduledChange}
    (found : ScheduledChange.read x = .ok c)
    : c.Documented := by
  obtain ⟨entries, rfl, fields⟩ := ScheduledChange.read_eq_ok.mp found
  obtain ⟨x, momentPlain, read⟩ := Field.exists_of_required plain.fields fields.effectiveAt
  refine ⟨Field.documented_of_moment momentPlain read, ?_⟩
  intro l given
  obtain ⟨y, rulesPlain, readFrom⟩ := Field.exists_of_nullable plain.fields fields.rules given
  exact RuleList.documented_of_read rulesPlain readFrom

theorem FlagState.documented_of_read {x : Datum} (plain : x.Plain) {s : FlagState}
    (found : FlagState.read x = .ok s)
    : s.Documented := by
  obtain ⟨entries, rfl, fields⟩ := FlagState.read_eq_ok.mp found
  refine ⟨?_, ?_, ?_⟩
  · intro m given
    obtain ⟨y, momentPlain, readFrom⟩ :=
      Field.exists_of_nullable plain.fields fields.killSwitchActivatedAt given
    exact Field.documented_of_moment momentPlain readFrom
  · rcases Field.exists_of_optional plain.fields fields.rules with none | ⟨y, rulesPlain, readFrom⟩
    · rw [none]
      intro r member
      exact absurd member List.not_mem_nil
    · exact RuleList.documented_of_read rulesPlain readFrom
  · intro c given
    obtain ⟨y, changePlain, readFrom⟩ :=
      Field.exists_of_nullable plain.fields fields.scheduled given
    exact ScheduledChange.documented_of_read changePlain readFrom

theorem Segment.documented_of_read {x : Datum} (plain : x.Plain) {s : Segment}
    (found : Segment.read x = .ok s)
    : s.Documented := by
  obtain ⟨entries, rfl, fields⟩ := Segment.read_eq_ok.mp found
  obtain ⟨x, -, key⟩ := Field.required_eq_ok.mp fields.key
  refine ⟨Field.ne_empty_of_properText key, ?_⟩
  intro conditions member c inRule
  obtain ⟨y, rulePlain, read⟩ := Field.exists_of_optional_tuple Datum.plain_inherited plain.fields fields.rules member
  obtain ⟨entries, rfl, found⟩ := Field.record_eq_ok.mp read
  obtain ⟨z, -, readFrom⟩ := Field.exists_of_optional_tuple Datum.plain_inherited rulePlain.fields found inRule
  exact Condition.documented_of_read readFrom

theorem Flag.documented_of_ofEntries {entries : List (String × Datum)}
    (plain : Datum.PlainFields entries) {f : Flag} (found : Flag.ofEntries entries = .ok f)
    : f.Documented := by
  have fields := Flag.ofEntries_eq_ok.mp found
  rcases Field.exists_of_optional plain fields.variants with none | ⟨x, variantsPlain, read⟩
  · rw [Flag.Documented, none]
    exact List.nodup_nil
  · exact Flag.nodup_of_readVariants variantsPlain read

namespace Snapshot

theorem FlagDocument.documented_of_read {x : Datum} (plain : x.Plain) {d : FlagDocument}
    (found : FlagDocument.read x = .ok d)
    : d.flag.Documented ∧ ∀ e ∈ d.states.entries, e.2.Documented := by
  obtain ⟨entries, rfl, flag, states⟩ := FlagDocument.read_eq_ok.mp found
  refine ⟨Flag.documented_of_ofEntries plain.fields flag, ?_⟩
  intro e member
  rcases Field.exists_of_optional plain.fields states with none | ⟨x, statesPlain, read⟩
  · rw [none] at member
    exact absurd member List.not_mem_nil
  · obtain ⟨y, statePlain, readFrom⟩ :=
      Field.exists_of_mapping Datum.plain_inherited statesPlain read member
    exact FlagState.documented_of_read statePlain readFrom

/-- A snapshot that is parsed from plain data can be held by a document. -/
theorem documented_of_parse {x : Datum} (plain : x.Plain) {s : Snapshot}
    (parsed : (parse x).result = .ok s)
    : s.Documented := by
  unfold parse at parsed
  split at parsed
  · next d found =>
      obtain ⟨entries, rfl, fields⟩ := Document.read_eq_ok.mp found
      have flagDocuments (f : FlagDocument) (member : f ∈ d.flags)
          : f.flag.Documented ∧ ∀ e ∈ f.states.entries, e.2.Documented := by
        obtain ⟨y, flagPlain, read⟩ :=
          Field.exists_of_optional_list Datum.plain_inherited plain.fields fields.flags member
        exact FlagDocument.documented_of_read flagPlain read
      obtain ⟨-, -, parts⟩ := (build_eq_ok_iff ..).mp parsed
      refine ⟨?_, ?_, ?_⟩
      · intro e member
        rw [parts.flags] at member
        obtain ⟨f, given, rfl⟩ := List.mem_map.mp member
        obtain ⟨document, listed, rfl⟩ := List.mem_map.mp given
        exact (flagDocuments document listed).1
      · intro e member
        rw [parts.states] at member
        obtain ⟨document, listed, given⟩ := List.mem_flatMap.mp member
        obtain ⟨state, stored, rfl⟩ := List.mem_map.mp given
        exact (flagDocuments document listed).2 state stored
      · intro e member
        rw [parts.segments] at member
        obtain ⟨g, listed, rfl⟩ := List.mem_map.mp member
        obtain ⟨y, segmentPlain, read⟩ :=
          Field.exists_of_optional_list Datum.plain_inherited plain.fields fields.segments listed
        exact Segment.documented_of_read segmentPlain read
  · contradiction
  · contradiction

end Snapshot

end FeatureFlags
