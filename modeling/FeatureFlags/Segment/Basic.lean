import FeatureFlags.Condition.Evaluate

/-! Segments: named groups of entities, given by lists of ids and by rules about attributes.
-/

namespace FeatureFlags

/-- A named group of entities. -/
structure Segment where
  key : String
  name : String
  description : String
  included : TextSet
  excluded : TextSet
  /-- Each rule is a list of conditions, all of which have to hold; one rule is enough. -/
  rules : List (List Condition)
deriving DecidableEq

namespace Segment

/-- Reads a rule of a segment. -/
def readRule : Datum → Checked (List Condition) :=
  Field.record "SegmentRule" fun entries =>
    Field.optional entries "conditions" [] (Field.tuple Condition.read)

/-- Reads a segment. -/
def read : Datum → Checked Segment :=
  Field.record "Segment" fun entries =>
    Segment.mk
      <$> Field.required entries "key" Field.properText
      <*> Field.optional entries "name" "" Field.text
      <*> Field.optional entries "description" "" Field.text
      <*> Field.optional entries "included" ∅ Field.textSet
      <*> Field.optional entries "excluded" ∅ Field.textSet
      <*> Field.optional entries "rules" [] (Field.tuple readRule)

def textsDatum (set : TextSet) : Datum := .list (set.elements.map .text)

/-- A segment as loose data. -/
def datum (s : Segment) : Datum :=
  .record [("key", .text s.key), ("name", .text s.name), ("description", .text s.description),
    ("included", textsDatum s.included), ("excluded", textsDatum s.excluded),
    ("rules", .list (s.rules.map fun conditions =>
      .record [("conditions", .list (conditions.map Condition.datum))]))]

/-- Whether an entity belongs to a segment. Exclusion by id wins over everything else, inclusion by id
over the rules. -/
def admits (s : Segment) (context : Context) : Traced Bool :=
  if s.excluded.contains context.entityId then pure false
  else if s.included.contains context.entityId then pure true
  else Traced.any (fun conditions => Condition.allHold conditions context) s.rules

end Segment

end FeatureFlags
