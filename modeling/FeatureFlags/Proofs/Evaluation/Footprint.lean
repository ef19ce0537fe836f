import FeatureFlags.Evaluation
import FeatureFlags.Proofs.Condition.Meaning

/-! What an evaluation looks at. Of a snapshot these are the flag, its state and the segments that
rules of the state name; of a context they are the id and the attributes that conditions of these
rules and segments test. Whatever agrees there is evaluated alike, with the same events; each level
from conditions to whole evaluations passes that on. Attributes agree by kind and value, so the two
zeros make no difference.
-/

namespace FeatureFlags

-----------------------------------------------------------------------------------------
-- Contexts and conditions
-----------------------------------------------------------------------------------------

namespace Context

/-- Both contexts lack an attribute, or they have it with the same kind and value. -/
def AgreeAt (c other : Context) (name : String) : Prop :=
  Option.Rel (fun a b => a.same b = true) (c.get? name) (other.get? name)

/-- The contexts have the same id and agree at all names of some kind. -/
structure AgreeOn (c : Context) (names : String → Prop) (other : Context) : Prop where
  entityId : c.entityId = other.entityId
  attributes : ∀ name, names name → c.AgreeAt other name

theorem AgreeOn.mono {names fewer : String → Prop} {c other : Context}
    (agree : c.AgreeOn names other) (within : ∀ name, fewer name → names name)
    : c.AgreeOn fewer other :=
  ⟨agree.entityId, fun name member => agree.attributes name (within name member)⟩

end Context

theorem Context.AgreeOn.refl (c : Context) (names : String → Prop) : c.AgreeOn names c := by
  refine ⟨rfl, fun name _ => ?_⟩
  unfold AgreeAt
  cases c.get? name with
  | none => exact .none
  | some a => exact .some a.same_refl

namespace Condition

/-- No operator tells attributes of the same kind and value apart. Numbers are the only ones that
need not be identical, and all comparisons go by their places on the line of numbers.
-/
theorem holdsBetween_congr {a b : Attribute} (same : a.same b = true) (operator : Operator)
    (expected : Option Attribute)
    : holdsBetween operator a expected = holdsBetween operator b expected := by
  cases a <;> cases b <;> simp only [Attribute.same, beq_iff_eq, reduceCtorEq] at same
  case bool => rw [same]
  case text => rw [same]
  case texts => rw [same]
  case number x y =>
    have place : x.value.key = y.value.key := by simpa [Number.eq] using same
    rcases expected with _ | e
    · cases operator <;> rfl
    · cases operator <;> cases e <;>
        simp only [holdsBetween, Attribute.same, Number.eq, Number.lt, Number.le, place]

/-- A condition looks at nothing but the attribute that it names. -/
theorem holds_congr {c : Condition} {context other : Context}
    (agree : context.AgreeAt other c.name)
    : c.holds context = c.holds other := by
  unfold Context.AgreeAt at agree
  unfold holds
  generalize context.get? c.name = found at agree ⊢
  generalize other.get? c.name = found' at agree ⊢
  cases agree with
  | none => rfl
  | some same =>
      cases c.operator <;>
        simp only [holdsBetween_congr same, Option.isSome_some, Option.isNone_some]

theorem allHold_congr {conditions : List Condition} {context other : Context}
    (agree : ∀ c ∈ conditions, context.AgreeAt other c.name)
    : allHold conditions context = allHold conditions other :=
  Traced.all_congr (fun c member => holds_congr (agree c member))

end Condition

-----------------------------------------------------------------------------------------
-- Segments and rules
-----------------------------------------------------------------------------------------

/-- A condition of a rule of the segment tests the attribute. -/
def Segment.Tests (g : Segment) (name : String) : Prop :=
  ∃ conditions ∈ g.rules, ∃ c ∈ conditions, c.name = name

/-- Membership in a segment depends on the id and on the attributes that the segment tests. -/
theorem Segment.admits_congr {g : Segment} {context other : Context}
    (agree : context.AgreeOn g.Tests other)
    : g.admits context = g.admits other := by
  have rules : ∀ conditions ∈ g.rules,
      Condition.allHold conditions context = Condition.allHold conditions other := by
    intro conditions member
    exact Condition.allHold_congr
      (fun c among => agree.attributes c.name ⟨conditions, member, c, among, rfl⟩)
  unfold admits
  rw [agree.entityId, Traced.any_congr rules]

namespace Rule

/-- The rule names a segment, be it that entities have to belong to it or to stay out of it. -/
def Names (r : Rule) (key : String) : Prop := key ∈ r.segments ∨ key ∈ r.excludedSegments

/-- A condition of the rule, or of a segment that the rule names, tests the attribute. -/
inductive Tests (segments : SegmentMap) (r : Rule) (name : String) : Prop
  | byCondition {c : Condition} (condition : c ∈ r.conditions) (tested : c.name = name)
  | bySegment {key : String} {g : Segment} (named : r.Names key)
      (found : segments.get? key = some g) (tested : g.Tests name)

variable {segments others : SegmentMap} {context other : Context}

/-- The two tests of a segment depend on the segment under the key and on what it looks at. -/
theorem belongsTo_congr {key : String} (same : segments.get? key = others.get? key)
    (agree : ∀ g, segments.get? key = some g → context.AgreeOn g.Tests other)
    : belongsTo segments context key = belongsTo others other key
      ∧ staysOutOf segments context key = staysOutOf others other key := by
  unfold belongsTo staysOutOf
  rw [← same]
  cases found : segments.get? key with
  | none => exact ⟨rfl, rfl⟩
  | some g =>
      have admitted := Segment.admits_congr (agree g found)
      exact ⟨admitted, by simp only [admitted]⟩

/-- Whether a rule concerns an entity depends on the segments that the rule names and on the
attributes that it tests.
-/
theorem concerns_congr {r : Rule}
    (same : ∀ key, r.Names key → segments.get? key = others.get? key)
    (agree : context.AgreeOn (r.Tests segments) other)
    : r.concerns context segments = r.concerns other others := by
  have conditions : Condition.allHold r.conditions context = Condition.allHold r.conditions other :=
    Condition.allHold_congr
      (fun c member => agree.attributes c.name (.byCondition member rfl))
  have tests (key : String) (named : r.Names key)
      : belongsTo segments context key = belongsTo others other key
        ∧ staysOutOf segments context key = staysOutOf others other key :=
    belongsTo_congr (same key named)
      (fun g found => agree.mono (fun name tested => .bySegment named found tested))
  have included := Traced.all_congr (fun key member => (tests key (Or.inl member)).1)
  have excluded := Traced.all_congr (fun key member => (tests key (Or.inr member)).2)
  unfold concerns segmentsHold
  rw [conditions, included, excluded]

/-- The choice among rules depends on what the rules look at, by induction over the rules. -/
theorem select_congr {rules : List Rule}
    (same : ∀ r ∈ rules, ∀ key, r.Names key → segments.get? key = others.get? key)
    (agree : context.AgreeOn (fun name => ∃ r ∈ rules, r.Tests segments name) other)
    (flagKey : String)
    : select flagKey context segments rules = select flagKey other others rules := by
  induction rules with
  | nil => rfl
  | cons r rest ih =>
      have first : r.concerns context segments = r.concerns other others :=
        concerns_congr (same r List.mem_cons_self)
          (agree.mono (fun name tested => ⟨r, List.mem_cons_self, tested⟩))
      have later := ih (fun r member => same r (List.mem_cons_of_mem _ member))
        (agree.mono (fun name ⟨r, member, tested⟩ => ⟨r, List.mem_cons_of_mem _ member, tested⟩))
      simp only [select, first, later, agree.entityId]

end Rule

-----------------------------------------------------------------------------------------
-- States
-----------------------------------------------------------------------------------------

namespace FlagState

/-- A rule of the state, committed or planned, names the segment. -/
def Names (state : FlagState) (key : String) : Prop := ∃ r ∈ state.allRules, r.Names key

/-- A rule of the state, committed or planned, tests the attribute. -/
def Tests (segments : SegmentMap) (state : FlagState) (name : String) : Prop :=
  ∃ r ∈ state.allRules, r.Tests segments name

/-- The state that holds is the committed one or the one with the planned change. -/
theorem effective_cases {state holding : FlagState} {now : Moment}
    (holds : state.effective now = .ok holding)
    : holding = state ∨ ∃ change, state.scheduled = some change ∧ holding = state.apply change := by
  unfold effective due? at holds
  cases planned : state.scheduled with
  | none =>
      simp only [planned, Except.map, Except.ok.injEq] at holds
      exact Or.inl holds.symm
  | some change =>
      simp only [planned] at holds
      cases due : change.isDue now with
      | error e => simp [due, Except.map] at holds
      | ok arrived =>
          cases arrived with
          | false =>
              simp only [due, Except.map, Bool.false_eq_true, if_false, Except.ok.injEq] at holds
              exact Or.inl holds.symm
          | true =>
              simp only [due, Except.map, if_true, Except.ok.injEq] at holds
              exact Or.inr ⟨change, rfl, holds.symm⟩

/-- Whatever state holds at a moment, its rules are among the committed and the planned ones. -/
theorem mem_allRules_of_effective {state holding : FlagState} {now : Moment}
    (holds : state.effective now = .ok holding) {r : Rule} (member : r ∈ holding.rules.rules)
    : r ∈ state.allRules := by
  rcases effective_cases holds with rfl | ⟨change, planned, rfl⟩
  · exact List.mem_append_left _ member
  · cases given : change.rules with
    | none =>
        simp only [apply, given, Option.getD_none] at member
        exact List.mem_append_left _ member
    | some rules =>
        simp only [apply, given, Option.getD_some] at member
        refine List.mem_append_right _ ?_
        simpa [scheduledRules, planned, given] using member

end FlagState

namespace Evaluation

variable {s other : Snapshot} {flag : Flag} {state : FlagState} {context context' : Context}

theorem serve_congr (version : s.version = other.version) : serve s = serve other := by
  funext flag value reason inRollout
  rw [serve, serve, version]

theorem byState_congr (version : s.version = other.version)
    (same : ∀ r ∈ state.rules.rules, ∀ key,
      r.Names key → s.segments.get? key = other.segments.get? key)
    (agree : context.AgreeOn (fun name => ∃ r ∈ state.rules.rules, r.Tests s.segments name) context')
    : byState s flag state context = byState other flag state context' := by
  simp only [byState, byDefault, serve_congr version, Rule.select_congr same agree,
    agree.entityId]

/-- A decision about a flag and its state depends on the version, on the segments that rules of the
state name, and on the id and the attributes that they test.
-/
theorem resolve_congr (version : s.version = other.version)
    (same : ∀ key, state.Names key → s.segments.get? key = other.segments.get? key)
    (agree : context.AgreeOn (state.Tests s.segments) context') (now : Moment)
    : resolve s flag state context now = resolve other flag state context' now := by
  have holding (holding : FlagState) (holds : state.effective now = .ok holding)
      : byState s flag holding context = byState other flag holding context' := by
    have among {r : Rule} (member : r ∈ holding.rules.rules) : r ∈ state.allRules :=
      FlagState.mem_allRules_of_effective holds member
    exact byState_congr version (fun r member key named => same key ⟨r, among member, named⟩)
      (agree.mono (fun name ⟨r, member, tested⟩ => ⟨r, among member, tested⟩))
  unfold resolve
  rw [serve_congr version, Traced.bind_congr (x := .lift (state.effective now)) holding]

end Evaluation

-----------------------------------------------------------------------------------------
-- Snapshots
-----------------------------------------------------------------------------------------

/-- The snapshots agree on a flag, on its state in an environment, and on the segments that rules of
the state name.
-/
structure Snapshot.AgreeAbout (s : Snapshot) (flagKey environment : String) (other : Snapshot)
    : Prop where
  flag : s.flags.get? flagKey = other.flags.get? flagKey
  state : s.states.get? (flagKey, environment) = other.states.get? (flagKey, environment)
  segments
    : ∀ state, s.states.get? (flagKey, environment) = some state
        → ∀ key, state.Names key → s.segments.get? key = other.segments.get? key

/-- The state of the flag in the environment tests the attribute. -/
def Snapshot.Tests (s : Snapshot) (flagKey environment name : String) : Prop :=
  ∃ state, s.states.get? (flagKey, environment) = some state ∧ state.Tests s.segments name

namespace Evaluation

variable {s other : Snapshot} {flagKey environment : String} {context context' : Context}

/-- Where a flag or its state is missing, the decision is the fallback. -/
theorem evaluate_of_missing
    (missing
      : s.flags.get? flagKey = none ∨ s.states.get? (flagKey, environment) = none)
    (context : Context) (fallback : Datum) (now : Moment)
    : evaluate (some s) flagKey environment context fallback now
      = pure ⟨flagKey, fallback, .flagNotFound, none, none, some s.version⟩ := by
  have absent : find? (some s) flagKey environment = none := by
    rcases missing with flag | state
    · simp [find?, flag]
    · simp [find?, state]
  simp only [evaluate, absent, Option.map_some]

/-- What is found is resolved and then guarded. -/
theorem evaluate_of_found {flag : Flag} {state : FlagState}
    (flagFound : s.flags.get? flagKey = some flag)
    (stateFound : s.states.get? (flagKey, environment) = some state) (context : Context)
    (fallback : Datum) (now : Moment)
    : evaluate (some s) flagKey environment context fallback now
      = (do guarded s flagKey environment flag context (← resolve s flag state context now)) := by
  have found : find? (some s) flagKey environment = some (s, flag, state) := by
    simp [find?, flagFound, stateFound]
  unfold evaluate
  rw [found]

theorem guarded_congr (version : s.version = other.version)
    (entity : context.entityId = context'.entityId) (flagKey environment : String) (flag : Flag)
    (d : Decision)
    : guarded s flagKey environment flag context d
      = guarded other flagKey environment flag context' d := by
  simp only [guarded, decided, version, entity]

/-- Snapshots of the same version that agree about a flag evaluate it alike for contexts that agree
on what the state of the flag tests. The fallbacks may differ unless one of them is served.
-/
theorem evaluate_congr (version : s.version = other.version)
    (agree : s.AgreeAbout flagKey environment other)
    (alike : context.AgreeOn (s.Tests flagKey environment) context') {fallback fallback' : Datum}
    (served
      : s.flags.get? flagKey = none ∨ s.states.get? (flagKey, environment) = none
        → fallback = fallback')
    (now : Moment)
    : evaluate (some s) flagKey environment context fallback now
      = evaluate (some other) flagKey environment context' fallback' now := by
  by_cases missing : s.flags.get? flagKey = none ∨ s.states.get? (flagKey, environment) = none
  · have missing' := missing
    rw [agree.flag, agree.state] at missing'
    rw [evaluate_of_missing missing, evaluate_of_missing missing', served missing, version]
  · obtain ⟨flagGiven, stateGiven⟩ := not_or.mp missing
    obtain ⟨flag, flagFound⟩ := Option.ne_none_iff_exists'.mp flagGiven
    obtain ⟨state, stateFound⟩ := Option.ne_none_iff_exists'.mp stateGiven
    have resolved : resolve s flag state context now = resolve other flag state context' now :=
      resolve_congr version (agree.segments state stateFound)
        (alike.mono (fun name tested => ⟨state, stateFound, tested⟩)) now
    rw [evaluate_of_found flagFound stateFound,
      evaluate_of_found (agree.flag ▸ flagFound) (agree.state ▸ stateFound), resolved]
    exact Traced.bind_congr (fun d _ => guarded_congr version alike.entityId _ _ flag d)

end Evaluation

end FeatureFlags
