import FeatureFlags.Condition.Basic
import FeatureFlags.Flag.Value
import FeatureFlags.Percentage

/-! Targeting rules: the value of a flag for entities that meet some conditions.
-/

namespace FeatureFlags

/-- The value of a flag for entities that meet all conditions, belong to all segments and to none of
the excluded ones, and take part in the rollout, if there is one. -/
structure Rule where
  id : String
  /-- Rules of lower priority are tried first. -/
  priority : Int
  conditions : List Condition
  segments : List String
  excludedSegments : List String
  percentage : Option Percentage
  value : FlagValue
  description : String
deriving DecidableEq

namespace Rule

/-- Reads a rule. -/
def read : Datum → Checked Rule :=
  Field.record "TargetingRule" fun entries =>
    Rule.mk
      <$> Field.required entries "id" Field.properText
      <*> Field.optional entries "priority" 0 Field.integer
      <*> Field.optional entries "conditions" [] (Field.tuple Condition.read)
      <*> Field.optional entries "segments" [] (Field.tuple Field.text)
      <*> Field.optional entries "excluded_segments" [] (Field.tuple Field.text)
      <*> Field.optional entries "rollout_percentage" none (Field.nullable Percentage.read)
      <*> Field.required entries "value" FlagValue.read
      <*> Field.optional entries "description" "" Field.text

/-- A rule as loose data. -/
def datum (r : Rule) : Datum :=
  .record [("id", .text r.id), ("priority", .int r.priority),
    ("conditions", .list (r.conditions.map Condition.datum)),
    ("segments", .list (r.segments.map .text)),
    ("excluded_segments", .list (r.excludedSegments.map .text)),
    ("rollout_percentage", Percentage.datum r.percentage), ("value", r.value.datum),
    ("description", .text r.description)]

/-- Whether the rule concerns every entity. -/
def isCatchAll (r : Rule) : Bool :=
  r.conditions.isEmpty && r.segments.isEmpty && r.excludedSegments.isEmpty

/-- The segments that the rule names. -/
def segmentKeys (r : Rule) : TextSet := .ofList (r.segments ++ r.excludedSegments)

end Rule

/-- Rules in the order in which they are tried: by priority, and otherwise as they were given. -/
structure RuleList where
  rules : List Rule
  ordered : rules.Pairwise fun a b => a.priority ≤ b.priority
deriving DecidableEq

namespace RuleList

def empty : RuleList := ⟨[], .nil⟩

instance : EmptyCollection RuleList := ⟨empty⟩

/-- Puts rules in order. -/
def ofList (rules : List Rule) : RuleList where
  rules := rules.mergeSort fun a b => a.priority ≤ b.priority
  ordered := by
    have h := @List.pairwise_mergeSort Rule (fun a b => decide (a.priority ≤ b.priority))
      (fun a b c hab hbc => by
        simp only [decide_eq_true_eq] at *
        omega)
      (fun a b => by
        simp only [Bool.or_eq_true, decide_eq_true_eq]
        omega) rules
    exact h.imp fun hab => of_decide_eq_true hab

/-- Reads rules. -/
def read (x : Datum) : Checked RuleList := (Field.tuple Rule.read x).map ofList

/-- Rules as loose data. -/
def datum (l : RuleList) : Datum := .list (l.rules.map Rule.datum)

end RuleList

end FeatureFlags
