import FeatureFlags.Rule.Basic
import FeatureFlags.Segment.Basic

/-! Which rule decides: the first one that an entity meets and whose rollout it takes part in.
-/

namespace FeatureFlags

/-- Segments by their keys. -/
abbrev SegmentMap := OrderedMap String Segment

namespace Rule

/-- Whether an entity belongs to a segment, if there is such a segment. -/
def belongsTo (segments : SegmentMap) (context : Context) (key : String) : Traced Bool :=
  match segments.get? key with
  | some s => s.admits context
  | none => pure false

/-- Whether there is such a segment and an entity does not belong to it. -/
def staysOutOf (segments : SegmentMap) (context : Context) (key : String) : Traced Bool :=
  match segments.get? key with
  | some s => do return !(← s.admits context)
  | none => pure false

/-- Whether an entity belongs to all segments of a rule and to none of the excluded ones. A segment
that does not exist is missed either way. -/
def segmentsHold (r : Rule) (context : Context) (segments : SegmentMap) : Traced Bool := do
  if ← Traced.all (belongsTo segments context) r.segments then
    Traced.all (staysOutOf segments context) r.excludedSegments
  else return false

/-- Whether an entity meets a rule, its rollout aside. -/
def concerns (r : Rule) (context : Context) (segments : SegmentMap) : Traced Bool := do
  if ← Condition.allHold r.conditions context then r.segmentsHold context segments
  else return false

/-- A rule that decides, and whether it does so by its rollout. -/
structure Selection where
  rule : Rule
  inRollout : Option Bool

/-- The event that an entity meets a rule and is not part of its rollout. -/
def skipped (flagKey : String) (r : Rule) (p : Percentage) : Event :=
  ⟨.debug, "flaps.engine.rules",
    "rules.rollout_skip flag=" ++ flagKey ++ " rule=" ++ r.id ++ " pct=" ++ toString p.value⟩

/-- The first rule of a list that decides about a flag, if there is one. -/
def select (flagKey : String) (context : Context) (segments : SegmentMap)
    : List Rule → Traced (Option Selection)
  | [] => pure none
  | r :: rest => do
    if ← r.concerns context segments then
      match r.percentage with
      | none => return some ⟨r, none⟩
      | some p =>
        if p.includes (Rollout.ruleScope flagKey r.id) context.entityId then
          return some ⟨r, some true⟩
        else
          .emit (skipped flagKey r p)
          select flagKey context segments rest
    else select flagKey context segments rest

end Rule

end FeatureFlags
