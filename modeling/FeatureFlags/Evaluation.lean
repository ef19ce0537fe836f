import FeatureFlags.Decision
import FeatureFlags.Snapshot.Basic

/-! Evaluation of flags. The steps are, each of them final: a missing flag has the value that the
caller wants; a flag with a thrown kill switch is off; from here on a planned change counts if its
moment has come; a disabled flag is off; the first rule that decides gives its value; a rollout gives
the default value to the entities that take part in it and turns the flag off for the others; without
a rollout the flag has its default value. Whatever the value is, it has to be one that the flag can
have.
-/

namespace FeatureFlags

namespace Evaluation

/-- The decision of a flag by one of its own values. -/
def serve (s : Snapshot) (flag : Flag) (value : FlagValue) (reason : Reason)
    (inRollout : Option Bool) : Decision :=
  ⟨flag.key, value.datum, reason, none, inRollout, some s.version⟩

/-- The decision about an enabled flag for which no rule decides. -/
def byDefault (s : Snapshot) (flag : Flag) (state : FlagState) (context : Context) : Decision :=
  match state.percentage with
  | none => serve s flag state.defaultValue .default none
  | some p =>
    if p.includes flag.key context.entityId then
      serve s flag state.defaultValue .rolloutBucket (some true)
    else
      serve s flag flag.offValue .default (some false)

/-- The decision about a flag with no kill switch thrown, by the state that holds. -/
def byState (s : Snapshot) (flag : Flag) (state : FlagState) (context : Context)
    : Traced Decision := do
  if !state.enabled then return serve s flag flag.offValue .flagDisabled none
  match ← Rule.select flag.key context s.segments state.rules.rules with
  | some selection =>
    return { serve s flag selection.rule.value .ruleMatch selection.inRollout with
      ruleId := some selection.rule.id }
  | none => return byDefault s flag state context

/-- The decision about a flag that has a state, before its value is looked at. -/
def resolve (s : Snapshot) (flag : Flag) (state : FlagState) (context : Context) (now : Moment)
    : Traced Decision := do
  if state.killSwitch then return serve s flag flag.offValue .killSwitch none
  byState s flag (← .lift (state.effective now)) context

/-- The event that a flag would have had a value that it cannot have. -/
def mismatch (flagKey environment : String) (flag : Flag) (d : Decision) : Event :=
  ⟨.warning, "flaps.engine.evaluator",
    "evaluate.type_mismatch flag=" ++ flagKey ++ " env=" ++ environment ++ " type=" ++
      flag.kind.word ++ " value=" ++ d.value.literal ++ " reason=" ++ d.reason.word⟩

/-- The event that a decision was reached. -/
def decided (flagKey environment : String) (context : Context) (d : Decision) : Event :=
  ⟨.debug, "flaps.engine.evaluator",
    "evaluate.decision flag=" ++ flagKey ++ " env=" ++ environment ++ " entity=" ++
      context.entityId ++ " reason=" ++ d.reason.word⟩

/-- Replaces a value that the flag cannot have. -/
def guarded (s : Snapshot) (flagKey environment : String) (flag : Flag) (context : Context)
    (d : Decision) : Traced Decision := do
  if flag.accepts d.value then
    .emit (decided flagKey environment context d)
    return d
  else
    .emit (mismatch flagKey environment flag d)
    return ⟨flagKey, flag.zeroValue.datum, .typeMismatch, none, none, some s.version⟩

/-- A flag and its state in an environment, with the snapshot that holds both. -/
def find? (snapshot : Option Snapshot) (flagKey environment : String)
    : Option (Snapshot × Flag × FlagState) := do
  let s ← snapshot
  return (s, ← s.flags.get? flagKey, ← s.states.get? (flagKey, environment))

/-- Whether the decision may depend on the moment. -/
def dependsOnMoment (snapshot : Option Snapshot) (flagKey environment : String) : Bool :=
  match find? snapshot flagKey environment with
  | some (_, _, state) => !state.killSwitch && state.scheduled.isSome
  | none => false

end Evaluation

/-- Evaluates a flag in an environment for an entity at a moment. The fallback is the value of a flag
that does not exist or has no state in the environment. -/
def evaluate (snapshot : Option Snapshot) (flagKey environment : String) (context : Context)
    (fallback : Datum) (now : Moment) : Traced Decision :=
  match Evaluation.find? snapshot flagKey environment with
  | none =>
    pure ⟨flagKey, fallback, .flagNotFound, none, none, snapshot.map Snapshot.version⟩
  | some (s, flag, state) => do
    Evaluation.guarded s flagKey environment flag context
      (← Evaluation.resolve s flag state context now)

end FeatureFlags
