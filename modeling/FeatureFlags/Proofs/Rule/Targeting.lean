import FeatureFlags.Proofs.Evaluation.Totality
import FeatureFlags.Proofs.Rule.Precedence

/-! Who is targeted. Segments comprise entities by their ids and by conditions, and rules concern
entities by conditions and by segments. Whatever is added to what a rule asks for, or to those whom a
segment excludes, concerns nobody else; whatever is added to those whom a segment includes leaves
nobody out. All of this is read off one equivalence for segments and one for rules.
-/

namespace FeatureFlags

variable {context : Context} {segments : SegmentMap}

theorem Condition.allHold_eq_ok_true_iff {conditions : List Condition}
    : (allHold conditions context).result = .ok true
      ↔ ∀ c ∈ conditions, (c.holds context).result = .ok true :=
  Traced.all_eq_ok_true_iff

-----------------------------------------------------------------------------------------
-- Segments
-----------------------------------------------------------------------------------------

namespace Segment

/-- The entity is not excluded from the segment, and it is included or meets all conditions of one of
the rules.
-/
def Comprises (g : Segment) (context : Context) : Prop :=
  context.entityId ∉ g.excluded
  ∧ (context.entityId ∈ g.included
    ∨ ∃ conditions ∈ g.rules, ∀ c ∈ conditions, (c.holds context).result = .ok true)

/-- The second segment excludes whomever the first one excludes, includes nobody else by id, and each
of its rules has all conditions of some rule of the first one. So it is if ids are added to the
excluded ones or conditions to a rule.
-/
structure Narrowed (g g' : Segment) : Prop where
  excluded : ∀ id ∈ g.excluded, id ∈ g'.excluded
  included : ∀ id ∈ g'.included, id ∈ g.included
  rules : ∀ stricter ∈ g'.rules, ∃ conditions ∈ g.rules, conditions ⊆ stricter

/-- The second segment excludes nobody else, includes whomever the first one includes by id, and has
the same rules and perhaps others behind them.
-/
structure Widened (g g' : Segment) : Prop where
  excluded : ∀ id ∈ g'.excluded, id ∈ g.excluded
  included : ∀ id ∈ g.included, id ∈ g'.included
  rules : g.rules <+: g'.rules

variable {g g' : Segment}

/-- A segment decides by the excluded ids, else by the included ones and else by its rules. -/
theorem admits_cases (g : Segment) (context : Context)
    : context.entityId ∈ g.excluded ∧ g.admits context = pure false
      ∨ context.entityId ∉ g.excluded ∧ context.entityId ∈ g.included
        ∧ g.admits context = pure true
      ∨ context.entityId ∉ g.excluded ∧ context.entityId ∉ g.included
        ∧ g.admits context
          = Traced.any (fun conditions => Condition.allHold conditions context) g.rules := by
  simp only [← TextSet.contains_iff]
  unfold admits
  split
  · next excluded => exact .inl ⟨excluded, rfl⟩
  · next absent =>
    split
    · next included => exact .inr (.inl ⟨absent, included, rfl⟩)
    · next missing => exact .inr (.inr ⟨absent, missing, rfl⟩)

theorem admits_eq_ok_true_iff
    : (g.admits context).result = .ok true
      ↔ context.entityId ∉ g.excluded
        ∧ (context.entityId ∈ g.included
          ∨ (Traced.any (fun conditions => Condition.allHold conditions context) g.rules).result
            = .ok true) := by
  rcases g.admits_cases context with
    ⟨excluded, decided⟩ | ⟨absent, included, decided⟩ | ⟨absent, missing, decided⟩
  · simp [decided, excluded]
  · simp [decided, absent, included]
  · simp [decided, absent, missing]

/-- An entity that a segment does not admit is excluded, or it is not included and fails to meet each
of the rules.
-/
theorem admits_eq_ok_false_iff
    : (g.admits context).result = .ok false
      ↔ context.entityId ∈ g.excluded
        ∨ context.entityId ∉ g.included
          ∧ ∀ conditions ∈ g.rules, (Condition.allHold conditions context).result = .ok false := by
  rw [← Traced.any_eq_ok_false_iff]
  rcases g.admits_cases context with
    ⟨excluded, decided⟩ | ⟨absent, included, decided⟩ | ⟨absent, missing, decided⟩
  · simp [decided, excluded]
  · simp [decided, absent, included]
  · simp [decided, absent, missing]

theorem comprises_of_admits (admitted : (g.admits context).result = .ok true)
    : g.Comprises context := by
  obtain ⟨absent, included | found⟩ := admits_eq_ok_true_iff.mp admitted
  · exact ⟨absent, .inl included⟩
  · obtain ⟨before, conditions, after, split, -, holds⟩ := Traced.any_eq_ok_true_iff.mp found
    have given : conditions ∈ g.rules := split ▸ List.mem_append_right before List.mem_cons_self
    exact ⟨absent, .inr ⟨conditions, given, Condition.allHold_eq_ok_true_iff.mp holds⟩⟩

theorem not_comprises_of_admits (refused : (g.admits context).result = .ok false)
    : ¬ g.Comprises context := by
  rintro ⟨absent, targeted⟩
  rcases admits_eq_ok_false_iff.mp refused with excluded | ⟨missing, fails⟩
  · exact absent excluded
  · rcases targeted with included | ⟨conditions, given, holds⟩
    · exact missing included
    · have failed := fails conditions given
      rw [Condition.allHold_eq_ok_true_iff.mpr holds] at failed
      exact Bool.noConfusion (Except.ok.inj failed)

/-- Whenever a segment answers, it admits those whom it comprises. -/
theorem admits_iff_comprises {admitted : Bool} (answered : (g.admits context).result = .ok admitted)
    : admitted = true ↔ g.Comprises context := by
  cases admitted with
  | true => exact iff_of_true rfl (comprises_of_admits answered)
  | false => exact iff_of_false (by simp) (not_comprises_of_admits answered)

/-- A narrowed segment comprises nobody else. -/
theorem Narrowed.comprises (narrowed : g.Narrowed g') (comprised : g'.Comprises context)
    : g.Comprises context := by
  obtain ⟨absent, targeted⟩ := comprised
  refine ⟨fun member => absent (narrowed.excluded _ member), ?_⟩
  rcases targeted with included | ⟨stricter, given, holds⟩
  · exact .inl (narrowed.included _ included)
  · obtain ⟨conditions, member, fewer⟩ := narrowed.rules stricter given
    exact .inr ⟨conditions, member, fun c asked => holds c (fewer asked)⟩

/-- A widened segment still admits everybody whom it admitted. -/
theorem Widened.admits (widened : g.Widened g') (admitted : (g.admits context).result = .ok true)
    : (g'.admits context).result = .ok true := by
  rw [admits_eq_ok_true_iff] at admitted ⊢
  obtain ⟨absent, targeted⟩ := admitted
  refine ⟨fun member => absent (widened.excluded _ member), ?_⟩
  rcases targeted with included | found
  · exact .inl (widened.included _ included)
  · obtain ⟨before, conditions, after, split, passed, holds⟩ := Traced.any_eq_ok_true_iff.mp found
    obtain ⟨more, longer⟩ := widened.rules
    refine .inr (Traced.any_eq_ok_true_iff.mpr
      ⟨before, conditions, after ++ more, ?_, passed, holds⟩)
    rw [← longer, split, List.append_assoc, List.cons_append]

end Segment

-----------------------------------------------------------------------------------------
-- Rules
-----------------------------------------------------------------------------------------

namespace Rule

/-- The second rule asks for all that the first one asks for, and perhaps for other conditions,
segments or excluded segments.
-/
structure Narrowed (r r' : Rule) : Prop where
  conditions : r.conditions ⊆ r'.conditions
  segments : r.segments ⊆ r'.segments
  excludedSegments : r.excludedSegments ⊆ r'.excludedSegments

/-- The rule about everybody in a segment. -/
def about (r : Rule) (key : String) : Rule :=
  { r with conditions := [], segments := [key], excludedSegments := [] }

/-- The rule about everybody outside a segment. -/
def exceptFor (r : Rule) (key : String) : Rule :=
  { r with conditions := [], segments := [], excludedSegments := [key] }

variable {r r' : Rule} {key : String}

theorem belongsTo_eq_ok_true_iff
    : (belongsTo segments context key).result = .ok true
      ↔ ∃ g, segments.get? key = some g ∧ (g.admits context).result = .ok true := by
  unfold belongsTo
  cases segments.get? key <;> simp

theorem staysOutOf_eq_ok_true_iff
    : (staysOutOf segments context key).result = .ok true
      ↔ ∃ g, segments.get? key = some g ∧ (g.admits context).result = .ok false := by
  unfold staysOutOf
  cases segments.get? key <;> simp [Outcome.bind_eq_ok]

/-- A rule concerns those who meet all of its conditions, are admitted by all of its segments and
refused by all of the excluded ones.
-/
theorem concerns_eq_ok_true_iff
    : (r.concerns context segments).result = .ok true
      ↔ (∀ c ∈ r.conditions, (c.holds context).result = .ok true)
        ∧ (∀ key ∈ r.segments,
            ∃ g, segments.get? key = some g ∧ (g.admits context).result = .ok true)
        ∧ ∀ key ∈ r.excludedSegments,
            ∃ g, segments.get? key = some g ∧ (g.admits context).result = .ok false := by
  simp only [concerns, segmentsHold, Traced.both_eq_ok_true_iff, Traced.all_eq_ok_true_iff,
    Condition.allHold_eq_ok_true_iff, belongsTo_eq_ok_true_iff, staysOutOf_eq_ok_true_iff]

/-- A narrowed rule concerns nobody else. -/
theorem Narrowed.concerns (narrowed : r.Narrowed r')
    (concerned : (r'.concerns context segments).result = .ok true)
    : (r.concerns context segments).result = .ok true := by
  rw [concerns_eq_ok_true_iff] at concerned ⊢
  obtain ⟨conditions, members, outsiders⟩ := concerned
  exact ⟨fun c asked => conditions c (narrowed.conditions asked),
    fun key required => members key (narrowed.segments required),
    fun key excluded => outsiders key (narrowed.excludedSegments excluded)⟩

/-- A rule that names a segment that does not exist concerns nobody. -/
theorem not_concerns_of_missing (named : key ∈ r.segments ++ r.excludedSegments)
    (missing : segments.get? key = none)
    : (r.concerns context segments).result ≠ .ok true := by
  rw [Ne, concerns_eq_ok_true_iff]
  rintro ⟨-, members, outsiders⟩
  obtain ⟨g, found⟩ : ∃ g, segments.get? key = some g := by
    rcases List.mem_append.mp named with required | excluded
    · exact (members key required).imp fun _ => And.left
    · exact (outsiders key excluded).imp fun _ => And.left
  rw [missing] at found
  contradiction

theorem concerns_of_no_conditions (unconditional : r.conditions = [])
    : (r.concerns context segments).result = (r.segmentsHold context segments).result := by
  rw [concerns, unconditional]
  exact Traced.result_pure_bind true _

/-- A rule about a segment that exists concerns those whom the segment admits. -/
theorem concerns_about {g : Segment} (found : segments.get? key = some g)
    : ((r.about key).concerns context segments).result = (g.admits context).result :=
  calc ((r.about key).concerns context segments).result
    _ = ((r.about key).segmentsHold context segments).result := concerns_of_no_conditions rfl
    _ = (Traced.all (belongsTo segments context) [key]).result := Traced.result_both_true _
    _ = (belongsTo segments context key).result := Traced.all_singleton_result _ _
    _ = (g.admits context).result := by rw [belongsTo, found]

/-- A rule about everybody outside a segment that exists concerns those whom the segment refuses. -/
theorem concerns_exceptFor {g : Segment} (found : segments.get? key = some g)
    : ((r.exceptFor key).concerns context segments).result
      = (g.admits context).result.map fun admitted => !admitted :=
  calc ((r.exceptFor key).concerns context segments).result
    _ = ((r.exceptFor key).segmentsHold context segments).result := concerns_of_no_conditions rfl
    _ = (Traced.all (staysOutOf segments context) [key]).result := Traced.result_pure_bind true _
    _ = (staysOutOf segments context key).result := Traced.all_singleton_result _ _
    _ = (g.admits context).result.map fun admitted => !admitted := by
        rw [staysOutOf, found, Traced.result_bind]
        rfl

end Rule

-----------------------------------------------------------------------------------------
-- Targeting
-----------------------------------------------------------------------------------------

/-- Targeting is monotone and fails closed. Legible segments always answer, and whenever a segment
answers, it admits exactly those whom it comprises. Narrowing a segment never turns an entity that it
refused into one that it admits, and widening it drops nobody whom it admitted. Rules with legible
conditions and segments always answer, too. Whatever a rule asks for in addition, it concerns nobody
else; a rule that names a segment that does not exist, as required or as excluded, concerns nobody;
and an entity about which an existing segment answers is concerned either by the rule about the
segment or by the rule about everybody outside of it.
-/
theorem targetingIsMonotone (context : Context) (segments : SegmentMap)
    : (∀ g : Segment,
        (g.Legible → (g.admits context).Answers)
        ∧ (∀ admitted,
            (g.admits context).result = .ok admitted → (admitted = true ↔ g.Comprises context))
        ∧ (∀ g',
            g.Narrowed g'
            → (g.admits context).result = .ok false
            → (g'.admits context).result ≠ .ok true)
        ∧ (∀ g',
            g.Widened g'
            → (g.admits context).result = .ok true
            → (g'.admits context).result = .ok true))
      ∧ (∀ r : Rule,
          (segments.Legible
            → (∀ c ∈ r.conditions, c.Legible)
            → (r.concerns context segments).Answers)
          ∧ (∀ r',
              r.Narrowed r'
              → (r'.concerns context segments).result = .ok true
              → (r.concerns context segments).result = .ok true)
          ∧ (∀ key ∈ r.segments ++ r.excludedSegments,
              segments.get? key = none → (r.concerns context segments).result ≠ .ok true)
          ∧ (∀ key g admitted,
              segments.get? key = some g
              → (g.admits context).result = .ok admitted
              → ((r.about key).concerns context segments).result = .ok admitted
                ∧ ((r.exceptFor key).concerns context segments).result = .ok !admitted)) := by
  refine ⟨fun g => ⟨?_, ?_, ?_, ?_⟩, fun r => ⟨?_, ?_, ?_, ?_⟩⟩
  · exact fun legible => Segment.admits_answers legible context
  · exact fun admitted answered => Segment.admits_iff_comprises answered
  · intro g' narrowed refused admitted
    exact Segment.not_comprises_of_admits refused
      (narrowed.comprises (Segment.comprises_of_admits admitted))
  · exact fun g' widened admitted => widened.admits admitted
  · exact fun legible conditions => Rule.concerns_answers legible conditions context
  · exact fun r' narrowed concerned => narrowed.concerns concerned
  · exact fun key named missing => Rule.not_concerns_of_missing named missing
  · intro key g admitted found answered
    rw [Rule.concerns_about found, Rule.concerns_exceptFor found, answered]
    exact ⟨rfl, rfl⟩

namespace Sample

/-- Everybody with a certain name. -/
def namesakes : Segment where
  key := "namesakes"
  name := "Namesakes"
  description := ""
  included := ∅
  excluded := ∅
  rules := [[⟨"name", .equals, some (.text "aaa")⟩]]

/-- Those of them who have an address. -/
def addressees : Segment :=
  { namesakes with
    rules := [[⟨"name", .equals, some (.text "aaa")⟩, ⟨"address", .isSet, none⟩]] }

/-- Everybody, said in two ways, the first of which cannot be tested. -/
def untestable : Segment :=
  { namesakes with rules := [(nameMatches "a{99999999999}").conditions, []] }

end Sample

/-- Who has no name is not admitted for having no address either, and nobody is outside a segment that
does not exist.
-/
theorem sample_exclusion_from_nowhere
    : (Sample.namesakes.Narrowed Sample.addressees
        ∧ (Sample.namesakes.admits .empty).result = .ok false
        ∧ (Sample.addressees.admits .empty).result ≠ .ok true)
      ∧ (∅ : SegmentMap).get? "namesakes" = none
      ∧ ((Sample.everyone.exceptFor "namesakes").concerns Sample.named ∅).result ≠ .ok true := by
  have narrowed : Sample.namesakes.Narrowed Sample.addressees :=
    ⟨fun _ member => member, fun _ member => member,
      by simp [Sample.namesakes, Sample.addressees]⟩
  have refused : (Sample.namesakes.admits .empty).result = .ok false := rfl
  have missing : (∅ : SegmentMap).get? "namesakes" = none := rfl
  obtain ⟨ofSegments, -⟩ := targetingIsMonotone .empty ∅
  obtain ⟨-, ofRules⟩ := targetingIsMonotone Sample.named ∅
  obtain ⟨-, -, narrows, -⟩ := ofSegments Sample.namesakes
  obtain ⟨-, -, failsClosed, -⟩ := ofRules (Sample.everyone.exceptFor "namesakes")
  exact ⟨⟨narrowed, refused, narrows _ narrowed refused⟩, missing,
    failsClosed "namesakes" (by decide) missing⟩

/-- A test that fails keeps later rules of a segment from admitting an entity, although one of them
has no conditions: a regular expression with too many repetitions is not taken for one that matches
nowhere.
-/
theorem uncountable_repetition_ends_membership
    : Sample.untestable.Comprises Sample.named
      ∧ (Sample.untestable.admits Sample.named).result
        = .error (.pattern "a{99999999999}" .countless) := by
  have failed := Sample.allHold_nameMatches_of_countless Sample.read_uncountable
  have absent : Sample.named.entityId ∉ (∅ : TextSet) := List.not_mem_nil
  constructor
  · exact ⟨absent, .inr ⟨[], List.mem_cons_of_mem _ List.mem_cons_self, by simp⟩⟩
  · rcases Sample.untestable.admits_cases Sample.named with
      ⟨excluded, -⟩ | ⟨-, included, -⟩ | ⟨-, -, decided⟩
    · exact absurd excluded absent
    · exact absurd included absent
    · rw [decided, Sample.untestable, Traced.any, Traced.result_bind, failed]
      rfl

end FeatureFlags
