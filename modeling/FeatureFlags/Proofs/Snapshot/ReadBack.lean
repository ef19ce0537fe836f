import FeatureFlags.Proofs.Rule.Order
import FeatureFlags.Proofs.Snapshot.Documented

/-! The parts of a snapshot are read back from their documents. Fields are left out of a document only
where reading puts the same value in their place.
-/

namespace FeatureFlags

-----------------------------------------------------------------------------------------
-- Sets, attributes and percentages
-----------------------------------------------------------------------------------------

/-- Ascending texts are put in their places one in front of the other, by list induction. -/
theorem TextSet.elements_ofList {l : List String} (ascending : l.Pairwise (· < ·))
    : (TextSet.ofList l).elements = l := by
  induction l with
  | nil => rfl
  | cons s rest ih =>
      obtain ⟨first, others⟩ := List.pairwise_cons.mp ascending
      change TextSet.place s (TextSet.ofList rest).elements = s :: rest
      rw [ih others]
      cases rest with
      | nil => rfl
      | cons t more => simp [TextSet.place, first t List.mem_cons_self]

theorem TextSet.ofList_elements (set : TextSet) : TextSet.ofList set.elements = set := by
  have same := TextSet.elements_ofList set.ascending
  cases h : TextSet.ofList set.elements with
  | mk elements ascending =>
      rw [h] at same
      cases set
      congr

theorem Attribute.textsOf?_texts (l : List String) : textsOf? (l.map .text) = some l := by
  induction l with
  | nil => rfl
  | cons s rest ih => simp [textsOf?, ih]

theorem Number.of?_value (x : Number) : Number.of? x.value = some x := dif_pos x.notNaN

/-- An attribute is what its data stands for. -/
theorem Attribute.ofDatum?_datum (a : Attribute) : ofDatum? a.datum = .ok (some a) := by
  cases a with
  | bool b => rfl
  | number x => simp [datum, ofDatum?, Number.of?_value]
  | text s => rfl
  | texts set => simp [datum, ofDatum?, Datum.items?, textsOf?_texts, TextSet.ofList_elements]

theorem Attribute.datum_ne_null (a : Attribute) : a.datum ≠ .null := by
  cases a <;> simp [datum]

theorem FlagValue.read_datum (v : FlagValue) : read v.datum = .ok v := by
  cases v <;> rfl

theorem FlagValue.datum_ne_null (v : FlagValue) : v.datum ≠ .null := by
  cases v <;> simp [datum]

theorem Percentage.read_value (p : Percentage) : read (.int p.value) = .ok p := by
  have bound := p.le_hundred
  have accepted : problem? p.value = none := by
    have low : ¬ (p.value : Int) < 0 := by omega
    have high : ¬ 100 < (p.value : Int) := by omega
    simp only [problem?, low, high, if_false]
  have clamped : min (p.value : Int).toNat 100 = p.value := by omega
  simp only [read, Field.integer, Checked.refuseIf, accepted, Checked.map, clamped]

-----------------------------------------------------------------------------------------
-- Fields that may be left out
-----------------------------------------------------------------------------------------

namespace Field

variable {α : Type} {read : Datum → Checked α} {entries : List (String × Datum)} {name : String}

/-- A field that is left out only if its value is the default. -/
theorem optional_unless (omitted : Bool) {x : Datum} {default a : α}
    (stored : entries.lookup name = if omitted then none else some x)
    (restored : read x = .ok a) (unset : omitted = true → a = default)
    : optional entries name default read = .ok a := by
  rw [optional_eq_ok, stored]
  cases omitted with
  | true => exact Or.inl ⟨rfl, (unset rfl).symm⟩
  | false => exact Or.inr ⟨x, rfl, restored⟩

/-- A word of the list is read as the value for which it stands. -/
theorem word_text {words : List (String × α)} (distinct : (words.map Prod.fst).Nodup) {w : String}
    {a : α} (listed : (w, a) ∈ words)
    : word words (.text w) = .ok a := by
  have found := (OrderedMap.lookup_eq_some_iff distinct).mpr listed
  simp [word, Datum.text?, found]

theorem text_text (s : String) : text (.text s) = .ok s := rfl

theorem properText_text {s : String} (proper : s ≠ "") : properText (.text s) = .ok s := by
  simp [properText, text, Checked.refuseIf, proper]

theorem boolean_bool (b : Bool) : boolean (.bool b) = .ok b := rfl

theorem integer_int (n : Int) : integer (.int n) = .ok n := rfl

/-- A value that may be missing is read back from its data or from null. -/
theorem nullable_write {write : α → Datum} {a : Option α}
    (each : ∀ b, a = some b → write b ≠ .null ∧ read (write b) = .ok b)
    : nullable read ((a.map write).getD .null) = .ok a := by
  cases a with
  | none => rfl
  | some b =>
      obtain ⟨given, same⟩ := each b rfl
      exact nullable_eq_ok.mpr (Or.inr ⟨given, b, same, rfl⟩)

theorem tuple_write {write : α → Datum} {l : List α} (each : ∀ a ∈ l, read (write a) = .ok a)
    : tuple read (.list (l.map write)) = .ok l :=
  tuple_eq_ok.mpr ⟨_, rfl, Checked.map_write each⟩

theorem items_texts (index : Nat) (l : List String)
    : Checked.items text index (l.map .text) = .ok l :=
  Checked.items_eq_ok.mpr (map_text_eq_iff.mpr rfl)

theorem textSet_texts (set : TextSet) : textSet (Segment.textsDatum set) = .ok set := by
  simp only [textSet, Segment.textsDatum, Datum.items?, items_texts, Checked.map,
    TextSet.ofList_elements]

end Field

namespace Snapshot

/-- Nulls are left out and everything else is kept. -/
theorem lookup_withoutNulls {entries : List (String × Datum)}
    (distinct : (entries.map Prod.fst).Nodup) {name : String} {x : Datum}
    (stored : entries.lookup name = some x)
    : (withoutNulls entries).lookup name = if x.isNull then none else some x := by
  have kept : ((withoutNulls entries).map Prod.fst).Nodup :=
    distinct.sublist (List.filter_sublist.map Prod.fst)
  apply Option.ext
  intro y
  rw [OrderedMap.lookup_eq_some_iff kept, withoutNulls, List.mem_filter,
    ← OrderedMap.lookup_eq_some_iff distinct, stored]
  cases null : x.isNull with
  | true =>
      simp only [if_true, reduceCtorEq, iff_false, not_and]
      intro same
      obtain rfl := Option.some.inj same
      simp [null]
  | false =>
      simp only [Bool.false_eq_true, if_false, and_iff_left_iff_imp]
      intro same
      obtain rfl := Option.some.inj same
      simp [null]

theorem eq_null_of_isNull {x : Datum} (null : x.isNull = true) : x = .null := by
  cases x <;> simp [Datum.isNull] at null ⊢

variable {α : Type} {read : Datum → Checked α} {entries : List (String × Datum)}

/-- A field that is written as null only where its value is the default. -/
theorem optional_withoutNulls (distinct : (entries.map Prod.fst).Nodup) {name : String} {x : Datum}
    {default a : α} (stored : entries.lookup name = some x) (restored : read x = .ok a)
    (unset : x = .null → a = default)
    : Field.optional (withoutNulls entries) name default read = .ok a :=
  Field.optional_unless x.isNull (lookup_withoutNulls distinct stored) restored fun null =>
    unset (eq_null_of_isNull null)

theorem required_withoutNulls (distinct : (entries.map Prod.fst).Nodup) {name : String} {x : Datum}
    {a : α} (stored : entries.lookup name = some x) (restored : read x = .ok a) (given : x ≠ .null)
    : Field.required (withoutNulls entries) name read = .ok a := by
  have kept : x.isNull = false := by
    cases null : x.isNull with
    | true => exact absurd (eq_null_of_isNull null) given
    | false => rfl
  have found := lookup_withoutNulls distinct stored
  rw [kept, if_neg Bool.false_ne_true] at found
  exact Field.required_eq_ok.mpr ⟨x, found, restored⟩

/-- A value that may be missing is written as null where it is. -/
theorem optional_nullable (distinct : (entries.map Prod.fst).Nodup) {name : String}
    (write : α → Datum) {a : Option α}
    (stored : entries.lookup name = some ((a.map write).getD .null))
    (each : ∀ b, a = some b → write b ≠ .null ∧ read (write b) = .ok b)
    : Field.optional (withoutNulls entries) name none (Field.nullable read) = .ok a := by
  refine optional_withoutNulls distinct stored (Field.nullable_write each) ?_
  intro null
  cases a with
  | none => rfl
  | some b => exact absurd null (each b rfl).1

theorem optional_percentage (distinct : (entries.map Prod.fst).Nodup) {name : String}
    {p : Option Percentage} (stored : entries.lookup name = some (Percentage.datum p))
    : Field.optional (withoutNulls entries) name none (Field.nullable Percentage.read) = .ok p :=
  optional_nullable distinct (fun p : Percentage => .int p.value) stored
    fun p _ => ⟨by simp, p.read_value⟩

-----------------------------------------------------------------------------------------
-- Conditions and rules
-----------------------------------------------------------------------------------------

theorem word_operator (op : Operator)
    : Field.word (Operator.all.map fun op => (op.word, op)) (.text op.word) = .ok op := by
  have distinct : ((Operator.all.map fun op => (op.word, op)).map Prod.fst).Nodup := by
    simp [Operator.all, Operator.word]
  have listed : op ∈ Operator.all := by cases op <;> simp [Operator.all]
  exact Field.word_text distinct (List.mem_map_of_mem listed)

theorem readValue_datum (a : Option Attribute)
    : Condition.readValue ((a.map Attribute.datum).getD .null) = .ok a := by
  cases a with
  | none => rfl
  | some a =>
      have given := a.datum_ne_null
      have same := a.ofDatum?_datum
      simp only [Option.map_some, Option.getD_some]
      unfold Condition.readValue
      split
      · next null => exact absurd null given
      · rw [same]

theorem read_conditionDocument {c : Condition} (documented : c.Documented)
    : Condition.read (conditionDocument c) = .ok c := by
  have distinct : ([("attribute", Datum.text c.name), ("operator", .text c.operator.word),
      ("value", (c.value.map Attribute.datum).getD .null)].map Prod.fst).Nodup := by simp
  refine Condition.read_eq_ok.mpr ⟨_, rfl, ?_, ?_, ?_⟩
  · exact required_withoutNulls distinct rfl (Field.properText_text documented) (by simp)
  · exact required_withoutNulls distinct (by simp [List.lookup_cons]) (word_operator c.operator)
      (by simp)
  · refine optional_withoutNulls distinct (by simp [List.lookup_cons]) (readValue_datum c.value) ?_
    intro null
    cases value : c.value with
    | none => rfl
    | some a => exact absurd (by simpa [value] using null) a.datum_ne_null

theorem read_ruleDocument {r : Rule} (documented : r.Documented)
    : Rule.read (ruleDocument r) = .ok r := by
  have distinct : ([("id", Datum.text r.id), ("priority", .int r.priority),
      ("conditions", .list (r.conditions.map conditionDocument)),
      ("segments", .list (r.segments.map .text)),
      ("excluded_segments", .list (r.excludedSegments.map .text)),
      ("rollout_percentage", Percentage.datum r.percentage), ("value", r.value.datum),
      ("description", .text r.description)].map Prod.fst).Nodup := by simp
  refine Rule.read_eq_ok.mpr ⟨_, rfl, ?_, ?_, ?_, ?_, ?_, ?_, ?_, ?_⟩
  · exact required_withoutNulls distinct rfl (Field.properText_text documented.id) (by simp)
  · exact optional_withoutNulls distinct (by simp [List.lookup_cons]) (Field.integer_int r.priority)
      (by simp)
  · have conditions := Field.tuple_write fun c member =>
      read_conditionDocument (documented.conditions c member)
    exact optional_withoutNulls distinct (by simp [List.lookup_cons]) conditions (by simp)
  · exact optional_withoutNulls distinct (by simp [List.lookup_cons])
      (Field.tuple_write fun s _ => Field.text_text s) (by simp)
  · exact optional_withoutNulls distinct (by simp [List.lookup_cons])
      (Field.tuple_write fun s _ => Field.text_text s) (by simp)
  · exact optional_percentage distinct (by simp [List.lookup_cons])
  · exact required_withoutNulls distinct (by simp [List.lookup_cons]) (FlagValue.read_datum r.value)
      r.value.datum_ne_null
  · exact optional_withoutNulls distinct (by simp [List.lookup_cons])
      (Field.text_text r.description) (by simp)

/-- Rules in order are read back in that order. -/
theorem read_ruleListDocument {l : RuleList} (documented : l.Documented)
    : RuleList.read (ruleListDocument l) = .ok l := by
  have read := Field.tuple_write fun r member => read_ruleDocument (documented r member)
  exact Checked.map_eq_ok.mpr ⟨l.rules, read, RuleList.ofList_rules l⟩

-----------------------------------------------------------------------------------------
-- States
-----------------------------------------------------------------------------------------

theorem read_changeDocument {c : ScheduledChange} (documented : c.Documented)
    : ScheduledChange.read (changeDocument c) = .ok c := by
  have distinct : ([("effective_at", Datum.text c.effectiveAt.documentText),
      ("enabled", (c.enabled.map .bool).getD .null),
      ("default_value", (c.defaultValue.map FlagValue.datum).getD .null),
      ("rollout_percentage", Percentage.datum c.percentage),
      ("rules", (c.rules.map ruleListDocument).getD .null)].map Prod.fst).Nodup := by simp
  refine ScheduledChange.read_eq_ok.mpr ⟨_, rfl, ?_, ?_, ?_, ?_, ?_⟩
  · exact required_withoutNulls distinct rfl (Field.moment_documentText documented.effectiveAt)
      (by simp)
  · exact optional_nullable distinct .bool (by simp [List.lookup_cons]) fun b _ => ⟨by simp, rfl⟩
  · exact optional_nullable distinct FlagValue.datum (by simp [List.lookup_cons])
      fun v _ => ⟨v.datum_ne_null, v.read_datum⟩
  · exact optional_percentage distinct (by simp [List.lookup_cons])
  · exact optional_nullable distinct ruleListDocument (by simp [List.lookup_cons])
      fun l given => ⟨by simp [ruleListDocument], read_ruleListDocument (documented.rules l given)⟩

theorem read_stateDocument {s : FlagState} (documented : s.Documented)
    : FlagState.read (stateDocument s) = .ok s := by
  have distinct : ([("enabled", Datum.bool s.enabled), ("kill_switch", .bool s.killSwitch),
      ("kill_switch_activated_at",
        (s.killSwitchActivatedAt.map fun m => .text m.documentText).getD .null),
      ("default_value", s.defaultValue.datum),
      ("rollout_percentage", Percentage.datum s.percentage),
      ("rules", ruleListDocument s.rules),
      ("scheduled", (s.scheduled.map changeDocument).getD .null)].map Prod.fst).Nodup := by simp
  refine FlagState.read_eq_ok.mpr ⟨_, rfl, ?_, ?_, ?_, ?_, ?_, ?_, ?_⟩
  · exact optional_withoutNulls distinct rfl (Field.boolean_bool s.enabled) (by simp)
  · exact optional_withoutNulls distinct (by simp [List.lookup_cons])
      (Field.boolean_bool s.killSwitch) (by simp)
  · exact optional_nullable distinct (fun m : AwareMoment => .text m.documentText)
      (by simp [List.lookup_cons]) fun m given => ⟨by simp,
        Field.moment_documentText (documented.killSwitchActivatedAt m given)⟩
  · exact optional_withoutNulls distinct (by simp [List.lookup_cons]) s.defaultValue.read_datum
      fun null => absurd null s.defaultValue.datum_ne_null
  · exact optional_percentage distinct (by simp [List.lookup_cons])
  · exact optional_withoutNulls distinct (by simp [List.lookup_cons])
      (read_ruleListDocument documented.rules) (by simp [ruleListDocument])
  · exact optional_nullable distinct changeDocument (by simp [List.lookup_cons])
      fun c given => ⟨by simp [changeDocument], read_changeDocument (documented.scheduled c given)⟩

-----------------------------------------------------------------------------------------
-- Segments
-----------------------------------------------------------------------------------------

/-- A field that is left out unless it is given. -/
theorem lookup_entryUnless (omitted : Bool) (name other : String) (x : Datum)
    : (entryUnless omitted name x).lookup other
      = if other = name then (if omitted then none else some x) else none := by
  cases omitted with
  | true => simp [entryUnless]
  | false =>
      by_cases same : other = name
      · simp [entryUnless, same]
      · have different : (other == name) = false := by simpa using same
        simp [entryUnless, List.lookup_cons, same, different]

theorem readRule_conditions {conditions : List Condition}
    (documented : ∀ c ∈ conditions, c.Documented)
    : Segment.readRule (.record (entryUnless conditions.isEmpty "conditions"
        (.list (conditions.map conditionDocument))))
      = .ok conditions := by
  have read := Field.tuple_write fun c member => read_conditionDocument (documented c member)
  refine Field.record_eq_ok.mpr ⟨_, rfl, ?_⟩
  exact Field.optional_unless conditions.isEmpty (by simp [lookup_entryUnless]) read
    List.isEmpty_iff.mp

theorem TextSet.eq_empty_of_isEmpty {set : TextSet} (none : set.isEmpty = true) : set = ∅ := by
  obtain ⟨elements, ascending⟩ := set
  obtain rfl : elements = [] := List.isEmpty_iff.mp none
  rfl

theorem read_segmentDocument {s : Segment} (documented : s.Documented)
    : Segment.read (segmentDocument s) = .ok s := by
  have rules := Field.tuple_write fun conditions member =>
    readRule_conditions (documented.rules conditions member)
  refine Segment.read_eq_ok.mpr ⟨_, rfl, ?_, ?_, ?_, ?_, ?_, ?_⟩
  · exact Field.required_eq_ok.mpr ⟨_, rfl, Field.properText_text documented.key⟩
  · exact Field.optional_unless s.name.isEmpty
      (by simp [List.lookup_append, lookup_entryUnless, List.lookup_cons]) (Field.text_text s.name)
      (by simp)
  · exact Field.optional_unless s.description.isEmpty
      (by simp [List.lookup_append, lookup_entryUnless, List.lookup_cons])
      (Field.text_text s.description) (by simp)
  · exact Field.optional_unless s.included.isEmpty
      (by simp [List.lookup_append, lookup_entryUnless, List.lookup_cons])
      (Field.textSet_texts s.included) TextSet.eq_empty_of_isEmpty
  · exact Field.optional_unless s.excluded.isEmpty
      (by simp [List.lookup_append, lookup_entryUnless, List.lookup_cons])
      (Field.textSet_texts s.excluded) TextSet.eq_empty_of_isEmpty
  · exact Field.optional_unless s.rules.isEmpty
      (by simp [List.lookup_append, lookup_entryUnless, List.lookup_cons]) rules List.isEmpty_iff.mp

-----------------------------------------------------------------------------------------
-- Flags and their states
-----------------------------------------------------------------------------------------

theorem word_kind (k : Flag.Kind)
    : Field.word ([Flag.Kind.boolean, Flag.Kind.text].map fun k => (k.word, k)) (.text k.word)
      = .ok k := by
  cases k with
  | boolean => exact Field.word_text (by simp [Flag.Kind.word]) (by simp)
  | text => exact Field.word_text (by simp [Flag.Kind.word]) (by simp)

/-- Fields behind those of a flag do not change how the flag is read. -/
theorem ofEntries_toEntries {f : Flag} (documented : f.Documented) (x : Datum)
    : Flag.ofEntries (f.toEntries ++ [("environments", x)]) = .ok f := by
  have kindField : Flag.kindField (f.toEntries ++ [("environments", x)]) = "type" := by
    simp [Flag.kindField, Flag.toEntries, List.lookup_cons]
  have tags := Field.tuple_write fun s (_ : s ∈ f.tags) => Field.text_text s
  refine Flag.ofEntries_eq_ok.mpr ⟨?_, ?_, ?_, ?_, ?_, ?_⟩
  · exact Field.required_eq_ok.mpr ⟨_, rfl, Field.text_text f.key⟩
  · rw [kindField]
    exact Field.optional_eq_ok.mpr
      (Or.inr ⟨_, by simp [Flag.toEntries, List.lookup_cons], word_kind f.kind⟩)
  · exact Field.optional_eq_ok.mpr
      (Or.inr ⟨_, by simp [Flag.toEntries, List.lookup_cons], Flag.readVariants_texts documented⟩)
  · exact Field.optional_eq_ok.mpr
      (Or.inr ⟨_, by simp [Flag.toEntries, List.lookup_cons], Field.text_text f.name⟩)
  · exact Field.optional_eq_ok.mpr
      (Or.inr ⟨_, by simp [Flag.toEntries, List.lookup_cons], Field.text_text f.description⟩)
  · exact Field.optional_eq_ok.mpr
      (Or.inr ⟨_, by simp [Flag.toEntries, List.lookup_cons], tags⟩)

theorem read_flagDocument {f : Flag} (documented : f.Documented)
    {states : List (String × FlagState)} (statesDocumented : ∀ e ∈ states, e.2.Documented)
    : FlagDocument.read (flagDocument f states) = .ok ⟨f, .ofList states⟩ := by
  have read : Checked.entries FlagState.read (states.map fun e => (e.1, stateDocument e.2))
      = .ok states := by
    rw [Checked.entries_eq_ok, List.map_map]
    apply List.map_congr_left
    intro e member
    exact congrArg (Prod.mk e.1) (read_stateDocument (statesDocumented e member))
  refine FlagDocument.read_eq_ok.mpr ⟨_, rfl, ofEntries_toEntries documented _, ?_⟩
  refine Field.optional_eq_ok.mpr (Or.inr ⟨_, by simp [Flag.toEntries, List.lookup_cons]; rfl, ?_⟩)
  exact Checked.map_eq_ok.mpr ⟨states, read, rfl⟩

-----------------------------------------------------------------------------------------
-- Documents
-----------------------------------------------------------------------------------------

/-- The parts of a snapshot in the order in which its document lists them. -/
def listed (s : Snapshot) : Document where
  version := s.version
  flags := s.flagKeys.filterMap fun key =>
    (s.flags.get? key).map fun f => ⟨f, .ofList (s.statesOf key)⟩
  segments := (ascending s.segments.keys).filterMap s.segments.get?

theorem mem_statesOf {s : Snapshot} {key : String} {e : String × FlagState}
    : e ∈ s.statesOf key ↔ ((key, e.1), e.2) ∈ s.states.entries := by
  simp only [statesOf, List.mem_mergeSort, List.mem_map, List.mem_filter, beq_iff_eq]
  constructor
  · rintro ⟨⟨⟨k, environment⟩, state⟩, ⟨member, rfl⟩, rfl⟩
    exact member
  · intro member
    exact ⟨((key, e.1), e.2), ⟨member, rfl⟩, rfl⟩

/-- The document of a snapshot is read as its parts. -/
theorem read_document {s : Snapshot} (documented : s.Documented) (bound : 0 ≤ s.version)
    : Document.read s.document = .ok s.listed := by
  refine Document.read_eq_ok.mpr ⟨_, rfl, ?_, ?_, ?_⟩
  · exact Field.required_eq_ok.mpr ⟨_, rfl, (readVersion_eq_ok_iff _ _).mpr ⟨rfl, bound⟩⟩
  · refine Field.optional_eq_ok.mpr (Or.inr ⟨_, by simp [List.lookup_cons]; rfl, ?_⟩)
    refine Field.list_eq_ok.mpr ⟨_, rfl, ?_⟩
    rw [listed, List.map_filterMap, List.map_filterMap]
    congr 1
    funext key
    cases found : s.flags.get? key with
    | none => rfl
    | some f =>
        have flagDocumented := documented.flags _ (OrderedMap.get?_eq_some_iff.mp found)
        exact congrArg some (read_flagDocument flagDocumented fun e member =>
          documented.states _ (mem_statesOf.mp member))
  · refine Field.optional_eq_ok.mpr (Or.inr ⟨_, by simp [List.lookup_cons]; rfl, ?_⟩)
    refine Field.list_eq_ok.mpr ⟨_, rfl, ?_⟩
    rw [listed, List.map_filterMap, List.map_filterMap]
    congr 1
    funext key
    cases found : s.segments.get? key with
    | none => rfl
    | some g =>
        exact congrArg some
          (read_segmentDocument (documented.segments _ (OrderedMap.get?_eq_some_iff.mp found)))

end Snapshot

end FeatureFlags
