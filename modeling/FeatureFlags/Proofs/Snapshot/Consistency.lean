import FeatureFlags.Proofs.OrderedMap
import FeatureFlags.Proofs.Outcome
import FeatureFlags.Snapshot.Check
import Mathlib.Tactic.Tauto

/-! Which parts fit together to a snapshot, said without the checks, and that the checks accept
exactly these. Every loop of the checks gets one law; what a state has to meet is the conjunction of
what its two lists of rules and its two defaults have to meet.
-/

namespace FeatureFlags

-----------------------------------------------------------------------------------------
-- Conditions
-----------------------------------------------------------------------------------------

/-- The condition has a value that its operator can compare with: any value for equality, a number
for order, texts for membership, a text for the others, and a regular expression where one is
matched. Operators about the presence of an attribute need none.
-/
def Condition.Usable (c : Condition) : Prop :=
  match c.operator with
  | .isSet | .isNotSet => True
  | .equals | .notEquals => ∃ a, c.value = some a
  | .greaterThan | .lessThan | .greaterOrEqual | .lessOrEqual => ∃ x, c.value = some (.number x)
  | .isIn | .notIn => ∃ set, c.value = some (.texts set)
  | .contains | .notContains | .startsWith | .endsWith => ∃ s, c.value = some (.text s)
  | .matchesPattern => ∃ s, c.value = some (.text s) ∧ ∃ pattern, Pattern.read s = .ok pattern

namespace Condition

theorem checkPattern_eq_ok_iff (c : Condition) (place pattern : String)
    : c.checkPattern place pattern = .ok () ↔ ∃ p, Pattern.read pattern = .ok p := by
  unfold checkPattern
  cases Pattern.read pattern with
  | ok p => simp
  | error fault => cases fault <;> simp

/-- The check accepts exactly the usable conditions, by cases on the operator and the value. -/
theorem check_eq_ok_iff (c : Condition) (place : String)
    : c.check place = .ok () ↔ c.Usable := by
  obtain ⟨name, operator, value⟩ := c
  cases value with
  | none => cases operator <;> simp [check, operand?, Usable]
  | some a =>
      cases operator <;> cases a <;>
        simp [check, operand?, Operand.admits, Usable, checkPattern_eq_ok_iff]

/-- All conditions of a list are accepted when each one is usable, by list induction. -/
theorem checkAll_eq_ok_iff (place : String) (conditions : List Condition)
    : checkAll place conditions = .ok () ↔ ∀ c ∈ conditions, c.Usable := by
  induction conditions with
  | nil => simp [checkAll]
  | cons c rest ih => simp [checkAll, Outcome.check_bind_eq_ok, check_eq_ok_iff, ih]

/-- A usable condition that matches a regular expression has one that can be read. -/
theorem Usable.exists_pattern {c : Condition} (usable : c.Usable)
    (matching : c.operator = .matchesPattern)
    : ∃ text pattern, c.value = some (.text text) ∧ Pattern.read text = .ok pattern := by
  simp only [Usable, matching] at usable
  obtain ⟨text, given, pattern, read⟩ := usable
  exact ⟨text, pattern, given, read⟩

end Condition

-----------------------------------------------------------------------------------------
-- Flags and their values
-----------------------------------------------------------------------------------------

/-- ASCII letters and digits, hyphens and underscores. -/
def Flag.KeyCharacter (c : Char) : Prop :=
  ('a' ≤ c ∧ c ≤ 'z') ∨ ('A' ≤ c ∧ c ≤ 'Z') ∨ ('0' ≤ c ∧ c ≤ '9') ∨ c = '-' ∨ c = '_'

/-- The flag has a proper key and, if it is boolean, no variants. -/
structure Flag.Sound (f : Flag) : Prop where
  keyed : f.key ≠ ""
  characters : ∀ c ∈ f.key.toList, Flag.KeyCharacter c
  plain : f.kind = .boolean → f.variants = []

/-- The value has the type of the flag and is one of its variants, if it has any. -/
def Flag.Conforms (f : Flag) : FlagValue → Prop
  | .bool _ => f.kind = .boolean
  | .text s => f.kind = .text ∧ (f.variants = [] ∨ s ∈ f.variants)

namespace Flag

theorem isAlphanum_iff (c : Char)
    : c.isAlphanum = true
      ↔ (('A' ≤ c ∧ c ≤ 'Z') ∨ ('a' ≤ c ∧ c ≤ 'z')) ∨ ('0' ≤ c ∧ c ≤ '9') := by
  change ((decide ('A' ≤ c ∧ c ≤ 'Z') || (decide ('a' ≤ c) && decide (c ≤ 'z')))
    || (decide ('0' ≤ c) && decide (c ≤ '9'))) = true ↔ _
  simp only [Bool.or_eq_true, Bool.and_eq_true, decide_eq_true_eq]

theorem isKeyCharacter_iff (c : Char) : isKeyCharacter c = true ↔ KeyCharacter c := by
  simp only [isKeyCharacter, KeyCharacter, Bool.or_eq_true, isAlphanum_iff, beq_iff_eq]
  tauto

theorem isKey_iff (s : String)
    : isKey s = true ↔ s ≠ "" ∧ ∀ c ∈ s.toList, KeyCharacter c := by
  simp [isKey, List.all_eq_true, isKeyCharacter_iff]

theorem accepts_datum_iff (f : Flag) (value : FlagValue)
    : f.accepts value.datum = true ↔ f.Conforms value := by
  unfold accepts
  cases value <;> cases kind : f.kind <;>
    simp [FlagValue.datum, Conforms, kind]

end Flag

-----------------------------------------------------------------------------------------
-- Rules and states
-----------------------------------------------------------------------------------------

/-- Every segment that the rule names is known, and all its conditions are usable. -/
structure Rule.Grounded (known : List String) (r : Rule) : Prop where
  segments : ∀ key ∈ r.segments, key ∈ known
  excludedSegments : ∀ key ∈ r.excludedSegments, key ∈ known
  conditions : ∀ c ∈ r.conditions, c.Usable

/-- The rules can decide about the flag: their ids differ, their values are ones that the flag can
have, and each of them is grounded.
-/
structure Flag.Admits (f : Flag) (known : List String) (rules : List Rule) : Prop where
  distinct : (rules.map Rule.id).Nodup
  values : ∀ r ∈ rules, f.Conforms r.value
  grounded : ∀ r ∈ rules, r.Grounded known

/-- The state suits the flag, with and without its planned change. -/
structure FlagState.Suits (f : Flag) (known : List String) (state : FlagState) : Prop where
  defaultValue : f.Conforms state.defaultValue
  rules : f.Admits known state.rules.rules
  plannedDefault
    : ∀ change, state.scheduled = some change
        → ∀ value, change.defaultValue = some value → f.Conforms value
  plannedRules
    : ∀ change, state.scheduled = some change
        → ∀ planned, change.rules = some planned → f.Admits known planned.rules

section

variable {known other : List String}

theorem Rule.Grounded.mono {r : Rule} (grounded : r.Grounded known)
    (more : ∀ key ∈ known, key ∈ other)
    : r.Grounded other :=
  ⟨fun key member => more key (grounded.segments key member),
    fun key member => more key (grounded.excludedSegments key member), grounded.conditions⟩

theorem Flag.Admits.mono {f : Flag} {rules : List Rule} (admits : f.Admits known rules)
    (more : ∀ key ∈ known, key ∈ other)
    : f.Admits other rules :=
  ⟨admits.distinct, admits.values, fun r member => (admits.grounded r member).mono more⟩

/-- A state goes on suiting a flag when more segments are known. -/
theorem FlagState.Suits.mono {f : Flag} {state : FlagState} (suits : state.Suits f known)
    (more : ∀ key ∈ known, key ∈ other)
    : state.Suits f other :=
  ⟨suits.defaultValue, suits.rules.mono more, suits.plannedDefault,
    fun change planned rules given => (suits.plannedRules change planned rules given).mono more⟩

end

namespace Snapshot

theorem fault_ne_ok {α : Type} (kind : Fault.Kind) (message : String)
    (context : List (String × Datum)) (a : α)
    : fault kind message context ≠ .ok a := by
  simp [fault]

/-- The check of the segments of a rule accepts known ones, by induction over their keys. -/
theorem checkSegmentKeys_eq_ok_iff (flag : Flag) (place : String) (rule : Rule)
    (segments : SegmentMap) (keys : List String)
    : checkSegmentKeys flag place rule segments keys = .ok ()
      ↔ ∀ key ∈ keys, key ∈ segments.entries.map Prod.fst := by
  induction keys with
  | nil => simp [checkSegmentKeys]
  | cons key rest ih =>
      by_cases known : segments.contains key = true
      · simp only [checkSegmentKeys, known, if_true, ih, List.forall_mem_cons,
          OrderedMap.contains_iff.mp known, true_and]
      · simp only [checkSegmentKeys, known, List.forall_mem_cons,
          mt OrderedMap.contains_iff.mpr known, false_and, iff_false]
        exact fault_ne_ok _ _ _ _

theorem mem_segmentKeys_iff (rule : Rule) (key : String)
    : key ∈ rule.segmentKeys.elements ↔ key ∈ rule.segments ∨ key ∈ rule.excludedSegments := by
  rw [← List.mem_append]
  exact TextSet.mem_ofList

/-- The two checks of a single rule accept exactly the grounded rules. -/
theorem checkParts_eq_ok_iff (flag : Flag) (place : String) (segments : SegmentMap) (rule : Rule)
    : checkSegmentKeys flag place rule segments rule.segmentKeys.elements = .ok ()
        ∧ Condition.checkAll place rule.conditions = .ok ()
      ↔ rule.Grounded (segments.entries.map Prod.fst) := by
  simp only [checkSegmentKeys_eq_ok_iff, Condition.checkAll_eq_ok_iff, mem_segmentKeys_iff]
  constructor
  · rintro ⟨known, usable⟩
    exact ⟨fun key member => known key (Or.inl member),
      fun key member => known key (Or.inr member), usable⟩
  · rintro ⟨included, excluded, usable⟩
    exact ⟨fun key member => member.elim (included key) (excluded key), usable⟩

/-- Rules pass their check when no id was seen before and each rule is grounded, by induction over
the rules with the seen ids as an accumulator.
-/
theorem checkRules_eq_ok_iff (flag : Flag) (environment : String) (segments : SegmentMap)
    (seen : List String) (rules : List Rule)
    : checkRules flag environment segments seen rules = .ok ()
      ↔ (rules.map Rule.id).Nodup
        ∧ (∀ r ∈ rules, r.id ∉ seen)
        ∧ ∀ r ∈ rules, r.Grounded (segments.entries.map Prod.fst) := by
  induction rules generalizing seen with
  | nil => simp [checkRules]
  | cons rule rest ih =>
      by_cases repeated : rule.id ∈ seen
      · have refused : seen.contains rule.id = true := by simpa using repeated
        simp only [checkRules, refused, if_true, List.forall_mem_cons, repeated, not_true,
          false_and, and_false, iff_false]
        exact fault_ne_ok _ _ _ _
      · have accepted : seen.contains rule.id = false := by simpa using repeated
        have fresh
            : (∀ r ∈ rest, r.id ∉ rule.id :: seen)
              ↔ rule.id ∉ rest.map Rule.id ∧ ∀ r ∈ rest, r.id ∉ seen := by
          simp only [List.mem_cons, not_or, List.mem_map, not_exists, not_and]
          exact forall₂_and
        simp only [checkRules, accepted, Bool.false_eq_true, if_false, Outcome.check_bind_eq_ok,
          ih, List.forall_mem_cons, List.map_cons, List.nodup_cons, repeated, not_false_iff,
          fresh, ← checkParts_eq_ok_iff flag (placeOf flag environment rule) segments rule]
        tauto

/-- Values pass their check when each one conforms to the flag, by list induction. -/
theorem checkValues_eq_ok_iff (flag : Flag) (environment : String) (values : List FlagValue)
    : checkValues flag environment values = .ok () ↔ ∀ value ∈ values, flag.Conforms value := by
  induction values with
  | nil => simp [checkValues]
  | cons value rest ih =>
      by_cases conforms : flag.Conforms value
      · simp [checkValues, (flag.accepts_datum_iff value).mpr conforms, conforms, ih]
      · have refused := mt (flag.accepts_datum_iff value).mp conforms
        simp only [checkValues, refused, Bool.false_eq_true, if_false, List.forall_mem_cons,
          conforms, false_and, iff_false]
        exact fault_ne_ok _ _ _ _

/-- The values of a state are its default, the planned default and those of both lists of rules. -/
theorem forall_mem_allValues_iff (state : FlagState) (p : FlagValue → Prop)
    : (∀ value ∈ state.allValues, p value)
      ↔ p state.defaultValue
        ∧ (∀ change, state.scheduled = some change
            → ∀ value, change.defaultValue = some value → p value)
        ∧ (∀ r ∈ state.rules.rules, p r.value)
        ∧ ∀ r ∈ state.scheduledRules, p r.value := by
  have planned
      : (∀ value ∈ (state.scheduled.bind (·.defaultValue)).toList, p value)
        ↔ ∀ change, state.scheduled = some change
            → ∀ value, change.defaultValue = some value → p value := by
    cases state.scheduled with
    | none => simp
    | some change => cases change.defaultValue <;> simp
  simp only [FlagState.allValues, FlagState.allRules, List.cons_append, List.forall_mem_cons,
    List.map_append, List.forall_mem_append, planned, List.forall_mem_map]

/-- A flag admits the planned rules of a state when it admits those of its change, if it has one
with rules.
-/
theorem admits_scheduledRules_iff (flag : Flag) (known : List String) (state : FlagState)
    : flag.Admits known state.scheduledRules
      ↔ ∀ change, state.scheduled = some change
          → ∀ planned, change.rules = some planned → flag.Admits known planned.rules := by
  have none : flag.Admits known [] := ⟨by simp, by simp, by simp⟩
  unfold FlagState.scheduledRules
  cases state.scheduled with
  | none => simpa using none
  | some change => cases given : change.rules <;> simp [given, none]

/-- A state passes its check exactly when it suits its flag: the values and rules that the check
visits are the committed and the planned ones.
-/
theorem checkState_eq_ok_iff (flag : Flag) (environment : String) (state : FlagState)
    (segments : SegmentMap)
    : checkState flag environment state segments = .ok ()
      ↔ state.Suits flag (segments.entries.map Prod.fst) := by
  simp only [checkState, Outcome.check_bind_eq_ok, checkValues_eq_ok_iff, checkRules_eq_ok_iff,
    forall_mem_allValues_iff, List.not_mem_nil, not_false_iff, implies_true, true_and]
  constructor
  · rintro ⟨⟨default, plannedDefault, values, plannedValues⟩, ⟨distinct, grounded⟩,
      plannedDistinct, plannedGrounded⟩
    exact ⟨default, ⟨distinct, values, grounded⟩, plannedDefault,
      (admits_scheduledRules_iff flag _ state).mp
        ⟨plannedDistinct, plannedValues, plannedGrounded⟩⟩
  · intro suits
    have planned := (admits_scheduledRules_iff flag _ state).mpr suits.plannedRules
    exact ⟨⟨suits.defaultValue, suits.plannedDefault, suits.rules.values, planned.values⟩,
      ⟨suits.rules.distinct, suits.rules.grounded⟩, planned.distinct, planned.grounded⟩

-----------------------------------------------------------------------------------------
-- Whole snapshots
-----------------------------------------------------------------------------------------

/-- The parts of a snapshot fit together: everything is stored under its own key, flags and the
conditions of segments are sound, and every state belongs to a flag of the snapshot and suits it.
-/
structure Coherent (s : Snapshot) : Prop where
  flagKeys : ∀ e ∈ s.flags.entries, e.1 = e.2.key
  flags : ∀ e ∈ s.flags.entries, e.2.Sound
  segmentKeys : ∀ e ∈ s.segments.entries, e.1 = e.2.key
  segments : ∀ e ∈ s.segments.entries, ∀ conditions ∈ e.2.rules, ∀ c ∈ conditions, c.Usable
  states
    : ∀ e ∈ s.states.entries,
        ∃ flag, s.flags.get? e.1.1 = some flag
          ∧ e.2.Suits flag (s.segments.entries.map Prod.fst)

/-- In a coherent snapshot a state suits the flag that is found with it. -/
theorem Coherent.suits {s : Snapshot} (coherent : s.Coherent) {flagKey environment : String}
    {flag : Flag} {state : FlagState} (flagFound : s.flags.get? flagKey = some flag)
    (stateFound : s.states.get? (flagKey, environment) = some state)
    : state.Suits flag (s.segments.entries.map Prod.fst) := by
  obtain ⟨owner, ownerFound, suits⟩ :=
    coherent.states _ (OrderedMap.get?_eq_some_iff.mp stateFound)
  obtain rfl : owner = flag := Option.some.inj (ownerFound.symm.trans flagFound)
  exact suits

/-- A flag passes its check exactly when it is sound. -/
theorem checkFlag_eq_ok_iff (flag : Flag) : checkFlag flag = .ok () ↔ flag.Sound := by
  have sound
      : flag.Sound
        ↔ (Flag.isKey flag.key = true ∧ ¬ (flag.kind = .boolean ∧ flag.variants ≠ [])) := by
    rw [Flag.isKey_iff]
    constructor
    · rintro ⟨keyed, characters, plain⟩
      exact ⟨⟨keyed, characters⟩, fun ⟨boolean, varied⟩ => varied (plain boolean)⟩
    · rintro ⟨⟨keyed, characters⟩, plain⟩
      exact ⟨keyed, characters, fun boolean => by simpa [boolean] using plain⟩
  rw [sound]
  unfold checkFlag
  split
  · next refused =>
    have bad : Flag.isKey flag.key = false := by simpa using refused
    simp [bad, fault]
  · next good =>
    have good : Flag.isKey flag.key = true := by simpa using good
    split
    · next varied => simp [varied, fault]
    · next plain => simp only [good, plain, not_false_iff, and_self]

/-- Flags pass their checks when each is sound and stored under its key, by list induction. -/
theorem checkFlags_eq_ok_iff (entries : List (String × Flag))
    : checkFlags entries = .ok () ↔ ∀ e ∈ entries, e.1 = e.2.key ∧ e.2.Sound := by
  induction entries with
  | nil => simp [checkFlags]
  | cons entry rest ih =>
      obtain ⟨key, flag⟩ := entry
      by_cases same : key = flag.key
      · simp [checkFlags, same, Outcome.check_bind_eq_ok, checkFlag_eq_ok_iff, ih]
      · simp [checkFlags, same, fault]

/-- Segments pass their checks when the conditions of each are usable and it is stored under its
key, by list induction.
-/
theorem checkSegments_eq_ok_iff (entries : List (String × Segment))
    : checkSegments entries = .ok ()
      ↔ ∀ e ∈ entries,
          e.1 = e.2.key ∧ ∀ conditions ∈ e.2.rules, ∀ c ∈ conditions, c.Usable := by
  induction entries with
  | nil => simp [checkSegments]
  | cons entry rest ih =>
      obtain ⟨key, segment⟩ := entry
      by_cases same : key = segment.key
      · have flattened
            : (∀ c ∈ segment.rules.flatten, c.Usable)
              ↔ ∀ conditions ∈ segment.rules, ∀ c ∈ conditions, c.Usable := by
          simp only [List.mem_flatten]
          exact ⟨fun h conditions member c inner => h c ⟨conditions, member, inner⟩,
            fun h c ⟨conditions, member, inner⟩ => h conditions member c inner⟩
        simp only [checkSegments, same, ne_eq, not_true, if_false, Outcome.check_bind_eq_ok,
          Condition.checkAll_eq_ok_iff, flattened, ih, List.forall_mem_cons, true_and]
      · simp [checkSegments, same, fault]

/-- States pass their checks when each belongs to a flag and suits it, by list induction. -/
theorem checkStates_eq_ok_iff (flags : OrderedMap String Flag) (segments : SegmentMap)
    (entries : List ((String × String) × FlagState))
    : checkStates flags segments entries = .ok ()
      ↔ ∀ e ∈ entries,
          ∃ flag, flags.get? e.1.1 = some flag
            ∧ e.2.Suits flag (segments.entries.map Prod.fst) := by
  induction entries with
  | nil => simp [checkStates]
  | cons entry rest ih =>
      obtain ⟨⟨flagKey, environment⟩, state⟩ := entry
      cases found : flags.get? flagKey with
      | none => simp [checkStates, found, fault]
      | some flag =>
          simp [checkStates, found, Outcome.check_bind_eq_ok, checkState_eq_ok_iff, ih]

/-- A snapshot passes its check exactly when it is coherent. -/
theorem check_eq_ok_iff (s : Snapshot) : s.check = .ok () ↔ s.Coherent := by
  simp only [check, Outcome.check_bind_eq_ok, checkFlags_eq_ok_iff, checkSegments_eq_ok_iff,
    checkStates_eq_ok_iff]
  constructor
  · rintro ⟨flags, segments, states⟩
    exact ⟨fun e member => (flags e member).1, fun e member => (flags e member).2,
      fun e member => (segments e member).1, fun e member => (segments e member).2, states⟩
  · intro coherent
    exact ⟨fun e member => ⟨coherent.flagKeys e member, coherent.flags e member⟩,
      fun e member => ⟨coherent.segmentKeys e member, coherent.segments e member⟩,
      coherent.states⟩

end Snapshot

-----------------------------------------------------------------------------------------
-- Conditions within reach
-----------------------------------------------------------------------------------------

/-- Evaluations of the snapshot can come to the condition: it belongs to a rule of a state,
committed or planned, or to a rule of a segment.
-/
inductive Snapshot.Reaches (s : Snapshot) (c : Condition) : Prop
  | byRule {e : (String × String) × FlagState} {r : Rule} (state : e ∈ s.states.entries)
      (rule : r ∈ e.2.allRules) (condition : c ∈ r.conditions)
  | bySegment {e : String × Segment} {conditions : List Condition}
      (segment : e ∈ s.segments.entries) (rule : conditions ∈ e.2.rules)
      (condition : c ∈ conditions)

theorem FlagState.Suits.grounded_allRules {f : Flag} {known : List String} {state : FlagState}
    (suits : state.Suits f known) {r : Rule} (member : r ∈ state.allRules)
    : r.Grounded known := by
  rcases List.mem_append.mp member with committed | planned
  · exact suits.rules.grounded r committed
  · exact ((Snapshot.admits_scheduledRules_iff f known state).mpr suits.plannedRules).grounded r
      planned

/-- Whatever condition a coherent snapshot reaches, its check has accepted it. -/
theorem Snapshot.Coherent.usable_of_reaches {s : Snapshot} (coherent : s.Coherent) {c : Condition}
    (reached : s.Reaches c)
    : c.Usable := by
  cases reached with
  | byRule state rule condition =>
      obtain ⟨flag, -, suits⟩ := coherent.states _ state
      exact (suits.grounded_allRules rule).conditions c condition
  | bySegment segment rule condition => exact coherent.segments _ segment _ rule c condition

end FeatureFlags
