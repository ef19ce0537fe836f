import FeatureFlags.Proofs.Field.Variation
import FeatureFlags.Proofs.Rule.Order
import FeatureFlags.Proofs.Snapshot.Fields
import FeatureFlags.Proofs.Snapshot.Order

/-! Documents of snapshots whose parts are listed in another order: flags, segments and environments
in any order, the texts of sets in any order, and rules as long as those of equal priority keep
theirs.
-/

namespace FeatureFlags

open Datum (Variation Fieldwise Sequenced Mapped)
open FeatureFlags.Field (Respects)
open List (Forall₂ Perm)

-----------------------------------------------------------------------------------------
-- What may be listed in another order
-----------------------------------------------------------------------------------------

/-- The priority that a rule in a document has, if it can be read. -/
def Rule.priority? : Datum → Option Int
  | .record entries => (Field.optional entries "priority" 0 Field.integer).value?
  | _ => none

/-- The same rules, of which those of equal priority keep their order. -/
structure Rule.TiesKept (rules others : List Datum) : Prop where
  perm : rules.Perm others
  ties
    : ∀ priority : Int,
        (rules.filter fun x => priority? x == some priority)
          = others.filter fun x => priority? x == some priority

namespace Rearranged

/-- The texts of a set in any order. -/
def texts : Variation := Sequenced Eq Perm

def condition : Variation := Fieldwise [("value", texts)]

def conditions : Variation := Sequenced condition Eq

def rule : Variation := Fieldwise [("conditions", conditions)]

def rules : Variation := Sequenced rule Rule.TiesKept

def change : Variation := Fieldwise [("rules", rules)]

def state : Variation := Fieldwise [("rules", rules), ("scheduled", change)]

/-- A flag with its environments in any order. -/
def flag : Variation := Fieldwise [("environments", Mapped state)]

def segmentRule : Variation := Fieldwise [("conditions", conditions)]

def segment : Variation :=
  Fieldwise [("included", texts), ("excluded", texts), ("rules", Sequenced segmentRule Eq)]

/-- A document with its flags and segments in any order. -/
def document : Variation :=
  Fieldwise [("flags", Sequenced flag Perm), ("segments", Sequenced segment Perm)]

end Rearranged

-----------------------------------------------------------------------------------------
-- Conditions and rules
-----------------------------------------------------------------------------------------

theorem Attribute.textsOf?_eq_mapM (l : List Datum) : textsOf? l = l.mapM Datum.text? := by
  induction l with
  | nil => rfl
  | cons x rest ih =>
      rw [mapM_cons_option, ← ih]
      cases x <;> rfl

namespace Condition

theorem value?_readValue_of_items {x : Datum} {l : List Datum} (given : x.items? = some l)
    : (readValue x).value?
      = (l.mapM Datum.text?).map fun texts => some (.texts (.ofList texts)) := by
  rw [← Attribute.textsOf?_eq_mapM]
  cases x with
  | list members | tuple members | set members =>
      cases given
      simp only [readValue, Attribute.ofDatum?, Datum.items?, Option.bind_some]
      cases Attribute.textsOf? l <;> rfl
  | _ => contradiction

theorem respects_readValue : Respects Eq readValue Rearranged.texts := by
  intro x y varied
  cases varied with
  | same => exact rel_refl (fun _ => rfl) _
  | items given varied each ordered =>
      obtain rfl := List.forall₂_eq_eq_eq ▸ each
      rw [value?_readValue_of_items given, value?_readValue_of_items varied,
        map_eq_of_rel (fun _ _ same => by rw [TextSet.ofList_eq_of_perm same]) (mapM_perm ordered)]
      exact rel_refl (fun _ => rfl) _

theorem respects_read : Respects Eq read Rearranged.condition := by
  refine .record fun l m each => ?_
  have value := Field.optional_of_respects each "value" none (by simpa using respects_readValue)
  simp (disch := simp) only [read, Field.record, Checked.value?_seq, Checked.value?_map,
    Field.required_of_untouched each, value]

theorem respects_readAll : Respects Eq (Field.tuple read) Rearranged.conditions := respects_read.tuple

end Condition

theorem Rule.respects_read : Respects Eq read Rearranged.rule := by
  refine .record fun l m each => ?_
  have conditions := Field.optional_of_respects each "conditions" []
    (by simpa using Condition.respects_readAll)
  simp (disch := simp) only [read, Field.record, Checked.value?_seq, Checked.value?_map,
    Field.required_of_untouched each, Field.optional_of_untouched each, conditions]

/-- The priority of a rule can be told beforehand. -/
theorem Rule.priority?_of_read {x : Datum} {r : Rule} (taken : (read x).value? = some r)
    : priority? x = some r.priority := by
  obtain ⟨entries, rfl, fields⟩ := read_eq_ok.mp (Checked.value?_eq_some_iff.mp taken)
  exact Checked.value?_eq_some_iff.mpr fields.priority

/-- Rules are stored alike, since those of equal priority keep their order. -/
theorem RuleList.respects_read : Respects Eq read Rearranged.rules := by
  intro x y varied
  cases varied with
  | same => exact rel_refl (fun _ => rfl) _
  | @items _ _ l m n given varied each ordered =>
      simp only [read, Field.tuple, given, varied, Checked.value?_mapped, Checked.value?_items]
      rw [mapM_congr (each.imp fun x y alike => eq_of_rel (Rule.respects_read x y alike))]
      refine rel_map (mapM_perm ordered.perm) ?_
      intro rules others _ taken otherTaken
      refine ofList_eq_of_ofPriority fun priority => ?_
      have these := mapM_filter (fun _ _ => Rule.priority?_of_read) priority taken
      have those := mapM_filter (fun _ _ => Rule.priority?_of_read) priority otherTaken
      rw [ordered.ties priority] at these
      exact Option.some.inj (these.symm.trans those)

-----------------------------------------------------------------------------------------
-- States and segments
-----------------------------------------------------------------------------------------

theorem ScheduledChange.respects_read : Respects Eq read Rearranged.change := by
  refine .record fun l m each => ?_
  have rules := Field.optional_of_respects each "rules" none
    (by simpa using RuleList.respects_read.nullable (Field.keepsNull_sequenced _ _))
  simp (disch := simp) only [read, Field.record, Checked.value?_seq, Checked.value?_map,
    Field.required_of_untouched each, Field.optional_of_untouched each, rules]

theorem FlagState.respects_read : Respects Eq read Rearranged.state := by
  refine .record fun l m each => ?_
  have rules := Field.optional_of_respects each "rules" ∅ (by simpa using RuleList.respects_read)
  have scheduled := Field.optional_of_respects each "scheduled" none
    (by simpa using ScheduledChange.respects_read.nullable (Field.keepsNull_fieldwise _))
  simp (disch := simp) only [read, Field.record, Checked.value?_seq, Checked.value?_map,
    Field.optional_of_untouched each, rules, scheduled]

theorem Segment.respects_readRule : Respects Eq readRule Rearranged.segmentRule := by
  refine .record fun l m each => ?_
  exact Field.optional_of_respects each "conditions" [] (by simpa using Condition.respects_readAll)

theorem Segment.respects_read : Respects Eq read Rearranged.segment := by
  refine .record fun l m each => ?_
  have included := Field.optional_of_respects each "included" ∅
    (by simpa [Rearranged.texts] using Respects.textSet)
  have excluded := Field.optional_of_respects each "excluded" ∅
    (by simpa [Rearranged.texts] using Respects.textSet)
  have rules := Field.optional_of_respects each "rules" []
    (by simpa using Segment.respects_readRule.tuple)
  simp (disch := simp) only [read, Field.record, Checked.value?_seq, Checked.value?_map,
    Field.required_of_untouched each, Field.optional_of_untouched each, included, excluded, rules]

-----------------------------------------------------------------------------------------
-- Flags and documents
-----------------------------------------------------------------------------------------

namespace Snapshot

/-- The same flag with the same states, in whatever order its environments are listed. -/
structure FlagDocument.Alike (d other : FlagDocument) : Prop where
  flag : d.flag = other.flag
  states : d.states.entries.Perm other.states.entries

theorem FlagDocument.Alike.refl (d : FlagDocument) : d.Alike d := ⟨rfl, .refl d.states.entries⟩

/-- A flag itself is read from other fields than its environments. -/
theorem Flag.ofEntries_congr {l m : List (String × Datum)}
    (same : ∀ name, name ≠ "environments" → l.lookup name = m.lookup name)
    : Flag.ofEntries l = Flag.ofEntries m := by
  have kind : Flag.kindField l = Flag.kindField m := by
    rw [Flag.kindField, Flag.kindField, same "type" (by simp)]
  have own : Flag.kindField m ≠ "environments" := by
    unfold Flag.kindField
    split <;> simp
  simp only [Flag.ofEntries, Field.required, Field.optional, kind, same _ own,
    same "key" (by simp), same "variants" (by simp), same "name" (by simp),
    same "description" (by simp), same "tags" (by simp)]

theorem FlagDocument.respects_read : Respects Alike read Rearranged.flag := by
  intro x y varied
  cases varied with
  | same => exact rel_refl Alike.refl _
  | @record l m each =>
      have flags : Flag.ofEntries l = Flag.ofEntries m :=
        Flag.ofEntries_congr fun name own =>
          Field.lookup_eq_of_untouched each (by simpa using own)
      have states
          : Option.Rel (fun a b : OrderedMap String FlagState => a.entries.Perm b.entries)
              (Field.optional l "environments" ∅ (Field.mapping FlagState.read)).value?
              (Field.optional m "environments" ∅ (Field.mapping FlagState.read)).value? :=
        Field.optional_rel each (fun a => .refl a.entries) "environments" ∅
          (by simpa using FlagState.respects_read.mapping)
      simp only [read, Field.record, Checked.value?_seq, Checked.value?_map, flags]
      cases (Flag.ofEntries m).value? with
      | none => exact .none
      | some flag => exact rel_map states fun _ _ same _ _ => ⟨rfl, same⟩

/-- The same version and the same flags and segments, in whatever order they are listed. -/
structure Document.Alike (d other : Document) : Prop where
  version : d.version = other.version
  flags : Field.Shuffled FlagDocument.Alike d.flags other.flags
  segments : Field.Shuffled Eq d.segments other.segments

theorem Document.Alike.refl (d : Document) : d.Alike d :=
  ⟨rfl, Field.Shuffled.refl FlagDocument.Alike.refl d.flags,
    Field.Shuffled.refl (fun _ => rfl) d.segments⟩

theorem Document.respects_read : Respects Alike read Rearranged.document := by
  intro x y varied
  cases varied with
  | same => exact rel_refl Alike.refl _
  | @record l m each =>
      have flags := Field.optional_rel each (Field.Shuffled.refl FlagDocument.Alike.refl) "flags" []
        (by simpa using FlagDocument.respects_read.list FlagDocument.Alike.refl)
      have segments := Field.optional_rel each (Field.Shuffled.refl fun _ => rfl) "segments" []
        (by simpa using Segment.respects_read.list fun _ => rfl)
      simp (disch := simp) only [read, Field.record, Checked.value?_seq, Checked.value?_map,
        Field.required_of_untouched each]
      generalize (Field.optional l "flags" _ _).value? = a,
        (Field.optional m "flags" _ _).value? = b at flags
      generalize (Field.optional l "segments" _ _).value? = c,
        (Field.optional m "segments" _ _).value? = d at segments
      cases (Field.required m "version" readVersion).value? with
      | none => exact .none
      | some version =>
          cases flags with
          | none => exact .none
          | some sameFlags =>
              simp only [Option.map_some, Option.bind_some]
              exact rel_map segments fun _ _ same _ _ => ⟨rfl, sameFlags, same⟩

-----------------------------------------------------------------------------------------
-- The same parts
-----------------------------------------------------------------------------------------

/-- The states of flags that are alike, each with the key of its flag; by induction over the flags. -/
theorem perm_states_of_alike {flags others : List FlagDocument}
    (each : Forall₂ FlagDocument.Alike flags others)
    : (flags.flatMap fun f => f.states.entries.map fun e => ((f.flag.key, e.1), e.2)).Perm
        (others.flatMap fun f => f.states.entries.map fun e => ((f.flag.key, e.1), e.2)) := by
  induction each with
  | nil => exact .nil
  | cons same _ ih =>
      rw [List.flatMap_cons, List.flatMap_cons, same.flag]
      exact (same.states.map _).append ih

namespace Document.Alike

variable {d other : Document}

theorem perm_flags (alike : d.Alike other)
    : (other.flags.map FlagDocument.flag).Perm (d.flags.map FlagDocument.flag) := by
  obtain ⟨middle, each, perm⟩ := alike.flags
  have inside : d.flags.map FlagDocument.flag = middle.map FlagDocument.flag := by
    rw [← List.forall₂_eq_eq_eq, List.forall₂_map_left_iff, List.forall₂_map_right_iff]
    exact each.imp fun _ _ same => same.flag
  rw [inside]
  exact perm.symm.map FlagDocument.flag

theorem perm_states (alike : d.Alike other) : other.states.Perm d.states := by
  obtain ⟨middle, each, perm⟩ := alike.flags
  exact (perm.symm.flatMap_right _).trans (perm_states_of_alike each).symm

theorem perm_segments (alike : d.Alike other) : other.segments.Perm d.segments := by
  obtain ⟨middle, each, perm⟩ := alike.segments
  obtain rfl := List.forall₂_eq_eq_eq ▸ each
  exact perm.symm

end Document.Alike

/-- If one of two documents that are alike is accepted, then so is the other one. -/
theorem exists_parse_of_alike {x y : Datum} {s : Snapshot}
    (alike : Option.Rel Document.Alike (Document.read x).value? (Document.read y).value?)
    : ((parse x).result = .ok s → ∃ other, (parse y).result = .ok other ∧ other.SameParts s)
      ∧ ((parse y).result = .ok s
          → ∃ other, (parse x).result = .ok other ∧ other.SameParts s) := by
  simp only [parse_eq_ok_iff, ← Checked.value?_eq_some_iff]
  generalize (Document.read x).value? = d, (Document.read y).value? = d' at alike
  cases alike with
  | none => exact ⟨by simp, by simp⟩
  | some same =>
      constructor
      · rintro ⟨_, ⟨⟩, built⟩
        obtain ⟨other, again, parts⟩ :=
          exists_build_of_perm built same.perm_flags same.perm_states same.perm_segments
        exact ⟨other, ⟨_, rfl, same.version ▸ again⟩, parts⟩
      · rintro ⟨_, ⟨⟩, built⟩
        obtain ⟨other, again, parts⟩ := exists_build_of_perm built same.perm_flags.symm
          same.perm_states.symm same.perm_segments.symm
        exact ⟨other, ⟨_, rfl, same.version ▸ again⟩, parts⟩

/-- The order in documents does not matter where it should not. Take a document, and another one in
which flags and segments and the environments of flags are listed in another order, likewise the
texts of sets, and rules as long as those of equal priority keep their order. Either both documents
are accepted or neither. If they are, the snapshots have the same version and the same flags, states
and segments, and all evaluations come out the same, with the same events. Both are written as the
same document, which lists flags, environments and segments in ascending order of their keys.
-/
theorem documentOrderIrrelevant {x y : Datum} (rearranged : Rearranged.document x y)
    : ((∃ s, (parse x).result = .ok s) ↔ ∃ s, (parse y).result = .ok s)
      ∧ ∀ s other,
          (parse x).result = .ok s
          → (parse y).result = .ok other
          → s.SameParts other
            ∧ (∀ flagKey environment context fallback now,
                evaluate (some s) flagKey environment context fallback now
                  = evaluate (some other) flagKey environment context fallback now)
            ∧ s.document = other.document
            ∧ s.document.InOrder := by
  have alike := Document.respects_read x y rearranged
  constructor
  · constructor
    · rintro ⟨s, parsed⟩
      obtain ⟨other, accepted, -⟩ := (exists_parse_of_alike alike).1 parsed
      exact ⟨other, accepted⟩
    · rintro ⟨s, parsed⟩
      obtain ⟨other, accepted, -⟩ := (exists_parse_of_alike alike).2 parsed
      exact ⟨other, accepted⟩
  · intro s other parsed otherParsed
    obtain ⟨again, accepted, same⟩ := (exists_parse_of_alike alike).2 otherParsed
    obtain rfl : again = s := Except.ok.inj (accepted.symm.trans parsed)
    exact ⟨same, same.evaluate_eq, same.document_eq, (coherent_of_parse parsed).1.inOrder_document⟩

/-- A rule about those who live in some cities. -/
def sampleRule (id : String) (priority : Int) (cities : List String) : Datum :=
  .record [("id", .text id), ("priority", .int priority), ("value", .bool true),
    ("conditions", .list [.record [("attribute", .text "city"), ("operator", .text "in"),
      ("value", .list (cities.map .text))]])]

def sampleFlag (key : String) (environments : List (String × Datum)) : Datum :=
  .record [("key", .text key), ("environments", .record environments)]

def sampleSegment (key : String) (included : List String) : Datum :=
  .record [("key", .text key), ("included", .list (included.map .text))]

def sampleDocument (flags segments : List Datum) : Datum :=
  .record [("version", .int 7), ("flags", .list flags), ("segments", .list segments)]

def firstRules : Datum := .list [sampleRule "far" 2 ["Oslo"], sampleRule "near" 1 ["Bonn", "Ulm"]]

def secondRules : Datum := .list [sampleRule "near" 1 ["Ulm", "Bonn"], sampleRule "far" 2 ["Oslo"]]

/-- Two flags, one of them with rules of different priorities, and two segments. -/
def firstOrder : Datum :=
  sampleDocument
    [sampleFlag "theme" [("staging", .record []), ("production", .record [("rules", firstRules)])],
      sampleFlag "beta" []]
    [sampleSegment "staff" ["grace", "ada"], sampleSegment "guests" []]

/-- The same in another order. -/
def secondOrder : Datum :=
  sampleDocument
    [sampleFlag "beta" [],
      sampleFlag "theme" [("production", .record [("rules", secondRules)]),
        ("staging", .record [])]]
    [sampleSegment "guests" [], sampleSegment "staff" ["ada", "grace"]]

theorem rearranged_texts {l m : List String} (perm : l.Perm m)
    : Rearranged.texts (.list (l.map .text)) (.list (m.map .text)) :=
  .items rfl rfl (List.forall₂_same.mpr fun _ _ => rfl) (perm.map Datum.text)

theorem rearranged_sampleRule (id : String) (priority : Int) {cities others : List String}
    (perm : cities.Perm others)
    : Rearranged.rule (sampleRule id priority cities) (sampleRule id priority others) := by
  have condition
      : Rearranged.condition
          (.record [("attribute", .text "city"), ("operator", .text "in"),
            ("value", .list (cities.map .text))])
          (.record [("attribute", .text "city"), ("operator", .text "in"),
            ("value", .list (others.map .text))]) :=
    .record (.cons .same (.cons .same (.cons (.varied (by simp) (rearranged_texts perm)) .nil)))
  have conditions : Rearranged.conditions (.list [_]) (.list [_]) :=
    .items rfl rfl (.cons condition .nil) rfl
  exact .record (.cons .same (.cons .same (.cons .same (.cons (.varied (by simp) conditions) .nil))))

theorem rearranged_firstRules : Rearranged.rules firstRules secondRules := by
  have each := Forall₂.cons (rearranged_sampleRule "far" 2 (.refl ["Oslo"]))
    (.cons (rearranged_sampleRule "near" 1 (.swap "Ulm" "Bonn" [])) .nil)
  have far : Rule.priority? (sampleRule "far" 2 ["Oslo"]) = some 2 := rfl
  have near : Rule.priority? (sampleRule "near" 1 ["Ulm", "Bonn"]) = some 1 := rfl
  refine .items rfl rfl each ⟨.swap _ _ _, fun priority => ?_⟩
  simp only [List.filter_cons, List.filter_nil, far, near]
  by_cases two : priority = 2
  · subst two
    rfl
  · simp [Ne.symm two]

theorem rearranged_firstOrder : Rearranged.document firstOrder secondOrder := by
  have staging : Rearranged.state (.record []) (.record []) := .same _
  have production
      : Rearranged.state (.record [("rules", firstRules)]) (.record [("rules", secondRules)]) :=
    .record (.cons (.varied (by simp) rearranged_firstRules) .nil)
  have environments : Mapped Rearranged.state (.record _) (.record _) :=
    .record (by simp) (.cons (.of staging) (.cons (.of production) .nil))
      (.swap ("production", _) ("staging", _) [])
  have theme : Rearranged.flag (sampleFlag "theme" _) (sampleFlag "theme" _) :=
    .record (.cons .same (.cons (.varied (by simp) environments) .nil))
  have staff
      : Rearranged.segment (sampleSegment "staff" ["grace", "ada"])
          (sampleSegment "staff" ["ada", "grace"]) :=
    .record (.cons .same (.cons (.varied (by simp) (rearranged_texts (.swap _ _ _))) .nil))
  have flags : Sequenced Rearranged.flag Perm (.list _) (.list _) :=
    .items rfl rfl (.cons theme (.cons (.same (sampleFlag "beta" [])) .nil)) (.swap _ _ _)
  have segments : Sequenced Rearranged.segment Perm (.list _) (.list _) :=
    .items rfl rfl (.cons staff (.cons (.same (sampleSegment "guests" [])) .nil)) (.swap _ _ _)
  exact .record (.cons .same (.cons (.varied (by simp) flags)
    (.cons (.varied (by simp) segments) .nil)))

def sampleStored (id : String) (priority : Int) (cities : List String) : Rule where
  id := id
  priority := priority
  conditions := [⟨"city", .isIn, some (.texts (.ofList cities))⟩]
  segments := []
  excludedSegments := []
  percentage := none
  value := .bool true
  description := ""

def sampleRules : RuleList where
  rules := [sampleStored "near" 1 ["Bonn", "Ulm"], sampleStored "far" 2 ["Oslo"]]
  ordered := by simp [sampleStored]

def sampleState (rules : RuleList) : FlagState :=
  ⟨false, false, none, .bool false, none, rules, none⟩

/-- What the documents say, with the given rules. -/
def sampleParts (rules : RuleList) : Document where
  version := 7
  flags :=
    [⟨⟨"beta", .boolean, [], "", "", []⟩, ∅⟩,
      ⟨⟨"theme", .boolean, [], "", "", []⟩,
        .ofList [("production", sampleState rules), ("staging", sampleState ∅)]⟩]
  segments :=
    [⟨"guests", "", "", ∅, ∅, []⟩, ⟨"staff", "", "", .ofList ["ada", "grace"], ∅, []⟩]

/-- The parts are accepted; the rules are listed in order, and sorting them leaves them so. -/
theorem exists_parse_secondOrder : ∃ s, (parse secondOrder).result = .ok s := by
  have read : Document.read secondOrder = .ok (sampleParts (.ofList sampleRules.rules)) := rfl
  rw [RuleList.ofList_rules] at read
  have accepted
      : (build (.int 7) ((sampleParts sampleRules).flags.map FlagDocument.flag)
          (sampleParts sampleRules).states (sampleParts sampleRules).segments).result.isOk = true := by
    decide +kernel
  obtain ⟨s, built⟩ := Outcome.exists_of_isOk accepted
  exact ⟨s, parse_eq_ok_iff.mpr ⟨_, read, built⟩⟩

theorem sample_orders_are_parsed_alike
    : Rearranged.document firstOrder secondOrder
      ∧ ∃ s other,
          (parse firstOrder).result = .ok s
          ∧ (parse secondOrder).result = .ok other
          ∧ s.SameParts other
          ∧ s.document = other.document := by
  have ⟨accepted, alike⟩ := documentOrderIrrelevant rearranged_firstOrder
  obtain ⟨other, otherParsed⟩ := exists_parse_secondOrder
  obtain ⟨s, parsed⟩ := accepted.mpr ⟨other, otherParsed⟩
  have ⟨same, _, document, _⟩ := alike s other parsed otherParsed
  exact ⟨rearranged_firstOrder, s, other, parsed, otherParsed, same, document⟩

end Snapshot

end FeatureFlags
