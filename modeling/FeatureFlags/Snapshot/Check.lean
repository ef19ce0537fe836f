import FeatureFlags.Condition.Check
import FeatureFlags.Snapshot.Basic

/-! Whether the parts of a snapshot fit together. Whatever could go wrong later, when flags are
evaluated, is refused here.
-/

namespace FeatureFlags.Snapshot

/-- The fault that a part of a snapshot has. -/
def fault {α : Type} (kind : Fault.Kind) (message : String) (context : List (String × Datum))
    : Except Failure α := .error (.fault (.of kind message context))

/-- The place of a rule in messages. -/
def placeOf (flag : Flag) (environment : String) (rule : Rule) : String :=
  "flag " ++ Quoted.quote flag.key ++ " env " ++ Quoted.quote environment ++ " rule " ++
    Quoted.quote rule.id

/-- Checks that all segments that a rule names exist. -/
def checkSegmentKeys (flag : Flag) (place : String) (rule : Rule) (segments : SegmentMap)
    : List String → Except Failure Unit
  | [] => .ok ()
  | key :: rest =>
    if segments.contains key then checkSegmentKeys flag place rule segments rest
    else
      fault .danglingSegment (place ++ ": unknown segment " ++ Quoted.quote key)
        [("flag", .text flag.key), ("rule", .text rule.id), ("segment", .text key)]

/-- Checks rules one after the other; `seen` are the ids of those before them. -/
def checkRules (flag : Flag) (environment : String) (segments : SegmentMap) (seen : List String)
    : List Rule → Except Failure Unit
  | [] => .ok ()
  | rule :: rest => do
    let place := placeOf flag environment rule
    if seen.contains rule.id then
      fault .duplicateKey (place ++ ": duplicate rule id")
        [("flag", .text flag.key), ("environment", .text environment), ("rule", .text rule.id)]
    else
      checkSegmentKeys flag place rule segments rule.segmentKeys.elements
      Condition.checkAll place rule.conditions
      checkRules flag environment segments (rule.id :: seen) rest

/-- Checks that a flag can have all of some values. -/
def checkValues (flag : Flag) (environment : String) : List FlagValue → Except Failure Unit
  | [] => .ok ()
  | value :: rest =>
    if flag.accepts value.datum then checkValues flag environment rest
    else
      let variants : Datum := .list (flag.variants.map .text)
      fault .typeMismatch
        ("flag " ++ Quoted.quote flag.key ++ " env " ++ Quoted.quote environment ++ ": value " ++
          value.datum.literal ++ " does not conform to type " ++ flag.kind.word ++
          (if flag.variants.isEmpty then "" else " with variants " ++ variants.literal))
        [("flag", .text flag.key), ("environment", .text environment), ("value", value.datum)]

/-- Checks the state of a flag in an environment. -/
def checkState (flag : Flag) (environment : String) (state : FlagState) (segments : SegmentMap)
    : Except Failure Unit := do
  checkValues flag environment state.allValues
  checkRules flag environment segments [] state.rules.rules
  checkRules flag environment segments [] state.scheduledRules

/-- Checks a flag by itself. -/
def checkFlag (flag : Flag) : Except Failure Unit :=
  if !Flag.isKey flag.key then
    fault .invalidFlagKey
      ("invalid flag key " ++ Quoted.quote flag.key ++ ": use letters, digits, '-' and '_'")
      [("flag", .text flag.key)]
  else if flag.kind = .boolean ∧ flag.variants ≠ [] then
    fault .typeMismatch
      ("boolean flag " ++ Quoted.quote flag.key ++ " cannot declare variants")
      [("flag", .text flag.key)]
  else .ok ()

/-- Checks flags and the keys under which they are stored. -/
def checkFlags : List (String × Flag) → Except Failure Unit
  | [] => .ok ()
  | (key, flag) :: rest =>
    if key ≠ flag.key then
      fault .snapshotInvalid
        ("flag stored under " ++ Quoted.quote key ++ " has key " ++ Quoted.quote flag.key)
        [("flag", .text flag.key)]
    else do
      checkFlag flag
      checkFlags rest

/-- Checks segments and the keys under which they are stored. -/
def checkSegments : List (String × Segment) → Except Failure Unit
  | [] => .ok ()
  | (key, segment) :: rest =>
    if key ≠ segment.key then
      fault .snapshotInvalid
        ("segment stored under " ++ Quoted.quote key ++ " has key " ++ Quoted.quote segment.key)
        [("segment", .text segment.key)]
    else do
      Condition.checkAll ("segment " ++ Quoted.quote key) segment.rules.flatten
      checkSegments rest

/-- Checks states and that their flags exist. -/
def checkStates (flags : OrderedMap String Flag) (segments : SegmentMap)
    : List ((String × String) × FlagState) → Except Failure Unit
  | [] => .ok ()
  | ((flagKey, environment), state) :: rest =>
    match flags.get? flagKey with
    | none =>
      fault .snapshotInvalid
        ("state for unknown flag " ++ Quoted.quote flagKey ++ " in env " ++
          Quoted.quote environment)
        [("flag", .text flagKey), ("environment", .text environment)]
    | some flag => do
      checkState flag environment state segments
      checkStates flags segments rest

/-- Checks that the parts of a snapshot fit together. -/
def check (s : Snapshot) : Except Failure Unit := do
  checkFlags s.flags.entries
  checkSegments s.segments.entries
  checkStates s.flags s.segments s.states.entries

end FeatureFlags.Snapshot
