import FeatureFlags.Proofs.Field.Failures
import FeatureFlags.Proofs.Snapshot.Fields

/-! Documents that cannot be read at all. Some values in a document cannot be looked at: then reading ends
with a failure and not with issues, and it does so on exactly these values.
-/

namespace FeatureFlags

open Datum (first?)

-----------------------------------------------------------------------------------------
-- Where reading fails
-----------------------------------------------------------------------------------------

/-- The failure of a value that a condition compares with: an integer beyond all doubles. -/
def Condition.valueFailure? : Datum → Option Failure
  | .int n => if Double.ofInt? n = none then some .overflow else none
  | _ => none

/-- The failure of the variants of a flag: one of them cannot be a member of a set. -/
def Flag.variantsFailure? : Datum → Option Failure
  | .list items | .tuple items => (Datum.unhashableIn? items).map .unhashable
  | _ => none

theorem Condition.failure?_readValue (x : Datum) : (readValue x).failure? = valueFailure? x := by
  cases x with
  | int n =>
      simp only [readValue, Attribute.ofDatum?, valueFailure?]
      cases Double.ofInt? n with
      | none => rfl
      | some y =>
          dsimp only
          cases Number.of? y <;> rfl
  | double y =>
      simp only [readValue, Attribute.ofDatum?, valueFailure?]
      cases Number.of? y <;> rfl
  | list items | tuple items | set items =>
      simp only [readValue, Attribute.ofDatum?, Datum.items?, Option.bind_some, valueFailure?]
      cases Attribute.textsOf? items <;> rfl
  | _ => rfl

theorem Flag.failure?_readVariants (x : Datum)
    : (readVariants x).failure? = variantsFailure? x := by
  cases x with
  | list items | tuple items =>
      simp only [readVariants, variantsFailure?]
      cases Datum.unhashableIn? items with
      | none => simp
      | some kind => rfl
  | set items => simp [readVariants, variantsFailure?]
  | _ => rfl

@[simp] theorem FlagValue.failure?_read (x : Datum) : (FlagValue.read x).failure? = none := by
  cases x <;> rfl

theorem Condition.failure?_read (x : Datum)
    : (Condition.read x).failure? = first? valueFailure? [.field "value"] x := by
  cases x with
  | record entries =>
      have value
          : (Field.optional entries "value" none readValue).failure?
            = first? valueFailure? [.field "value"] (.record entries) :=
        Field.failure?_optional failure?_readValue entries "value" none
      simp [Condition.read, Field.record, value]
  | _ => rfl

theorem Rule.failure?_read (x : Datum)
    : (Rule.read x).failure?
      = first? Condition.valueFailure? [.field "conditions", .items, .field "value"] x := by
  cases x with
  | record entries =>
      have conditions :=
        Field.failure?_optional (Field.failure?_tuple Condition.failure?_read) entries "conditions" []
      simp [Rule.read, Field.record, conditions]
  | _ => rfl

theorem RuleList.failure?_read (x : Datum)
    : (RuleList.read x).failure?
      = first? Condition.valueFailure? [.items, .field "conditions", .items, .field "value"] x := by
  rw [RuleList.read, Checked.failure?_mapped]
  exact Field.failure?_tuple Rule.failure?_read x

theorem ScheduledChange.failure?_read (x : Datum)
    : (ScheduledChange.read x).failure?
      = first? Condition.valueFailure?
          [.field "rules", .items, .field "conditions", .items, .field "value"] x := by
  cases x with
  | record entries =>
      have rules :=
        Field.failure?_optional
          (fun x => (Field.failure?_nullable rfl x).trans (RuleList.failure?_read x)) entries "rules"
          none
      simp [ScheduledChange.read, Field.record, rules]
  | _ => rfl

/-- The failure of a state: that of its rules or else that of its planned ones. -/
def FlagState.failure? (x : Datum) : Option Failure :=
  (first? Condition.valueFailure?
      [.field "rules", .items, .field "conditions", .items, .field "value"] x).or
    (first? Condition.valueFailure?
      [.field "scheduled", .field "rules", .items, .field "conditions", .items, .field "value"] x)

theorem FlagState.failure?_read (x : Datum) : (FlagState.read x).failure? = failure? x := by
  cases x with
  | record entries =>
      have rules := Field.failure?_optional RuleList.failure?_read entries "rules" ∅
      have scheduled :=
        Field.failure?_optional
          (fun x => (Field.failure?_nullable rfl x).trans (ScheduledChange.failure?_read x)) entries
          "scheduled" none
      simp [FlagState.read, Field.record, rules, scheduled, failure?]
  | _ => rfl

theorem Segment.failure?_readRule (x : Datum)
    : (Segment.readRule x).failure?
      = first? Condition.valueFailure? [.field "conditions", .items, .field "value"] x := by
  cases x with
  | record entries =>
      exact Field.failure?_optional (Field.failure?_tuple Condition.failure?_read) entries
        "conditions" []
  | _ => rfl

theorem Segment.failure?_read (x : Datum)
    : (Segment.read x).failure?
      = first? Condition.valueFailure?
          [.field "rules", .items, .field "conditions", .items, .field "value"] x := by
  cases x with
  | record entries =>
      have rules :=
        Field.failure?_optional (Field.failure?_tuple Segment.failure?_readRule) entries "rules" []
      simp [Segment.read, Field.record, rules]
  | _ => rfl

namespace Snapshot

/-- The failure of a flag with its states: that of its variants or else that of the first state that
has one.
-/
def FlagDocument.failure? (x : Datum) : Option Failure :=
  (first? Flag.variantsFailure? [.field "variants"] x).or
    (first? FlagState.failure? [.field "environments", .values] x)

theorem FlagDocument.failure?_read (x : Datum)
    : (FlagDocument.read x).failure? = failure? x := by
  cases x with
  | record entries =>
      have variants
          : (Field.optional entries "variants" [] Flag.readVariants).failure?
            = first? Flag.variantsFailure? [.field "variants"] (.record entries) :=
        Field.failure?_optional Flag.failure?_readVariants entries "variants" []
      have environments
          : (Field.optional entries "environments" ∅ (Field.mapping FlagState.read)).failure?
            = first? FlagState.failure? [.field "environments", .values] (.record entries) :=
        Field.failure?_optional (Field.failure?_mapping FlagState.failure?_read) entries
          "environments" ∅
      simp [FlagDocument.read, Field.record, Flag.ofEntries, variants, environments, failure?]
  | _ => rfl

/-- The failure of a document: that of the first flag that has one, or else that of a segment. -/
def Document.failure? (x : Datum) : Option Failure :=
  (first? FlagDocument.failure? [.field "flags", .items] x).or
    (first? Condition.valueFailure?
      [.field "segments", .items, .field "rules", .items, .field "conditions", .items,
        .field "value"] x)

theorem Document.failure?_read (x : Datum) : (Document.read x).failure? = failure? x := by
  cases x with
  | record entries =>
      have flags
          : (Field.optional entries "flags" [] (Field.list FlagDocument.read)).failure?
            = first? FlagDocument.failure? [.field "flags", .items] (.record entries) :=
        Field.failure?_optional (Field.failure?_list FlagDocument.failure?_read) entries "flags" []
      have segments :=
        Field.failure?_optional (Field.failure?_list Segment.failure?_read) entries "segments" []
      simp [Document.read, Field.record, readVersion, flags, segments, failure?]
  | _ => rfl

-----------------------------------------------------------------------------------------
-- What cannot be looked at
-----------------------------------------------------------------------------------------

end Snapshot

namespace Snapshot

end Snapshot

end FeatureFlags
