import FeatureFlags.Engine.Basic

/-! Serving decisions. All of a decision, its log lines and its listeners included, happens under the
version tag of the snapshot from which it was made; afterwards the former tag is back, whatever went
wrong. Listeners are those of the time when the decision was reached. One that fails keeps nobody
else from hearing.
-/

namespace FeatureFlags

/-- What someone can ask of an engine. -/
inductive Call where
  | evaluate (engine : Engine.Id) (flagKey environment : String) (context : Context)
    (fallback : Datum) (now : Option Moment)
  | evaluateAll (engine : Engine.Id) (environment : String) (context : Context)
    (now : Option Moment)
  | value (kind : Flag.Kind) (engine : Engine.Id) (flagKey environment : String)
    (context : Context) (fallback : Datum)
  | isEnabled (engine : Engine.Id) (flagKey environment : String) (context : Context)
  | load (engine : Engine.Id) (snapshot : Snapshot)
  | publish (engine : Engine.Id) (snapshot : Snapshot)
  | addListener (engine : Engine.Id) (listener : Listener)
  | removeListener (engine : Engine.Id) (listener : Listener)

/-- What an engine answers. -/
inductive Answer where
  | decision (decision : Decision)
  | decisions (decisions : List (String × Decision))
  | value (value : Datum)
  | enabled (on : Bool)
  | former (snapshot : Option Snapshot)
  | removed (found : Bool)
  | done

/-- What became of a call. -/
abbrev Outcome := Except Failure Answer

/-- What a listener does when it hears of a decision: nothing more, fail, make a call and go on in
a way that may depend on its outcome, or look back at all that has been heard so far and go on in a
way that may depend on that. -/
inductive Reaction where
  | done
  | failed
  | call (call : Call) (next : Outcome → Reaction)
  | review (next : List Hearing → Reaction)

/-- What engines find around them. -/
structure Surroundings where
  /-- What listeners do when they hear of a decision. -/
  react : Listener → Decision → Context → Reaction
  /-- The successive readings of the present, for engines without a clock. -/
  present : Nat → Moment
  /-- How deeply the calls of listeners may be nested. -/
  depth : Nat

/-- Carries out calls. -/
abbrev Performer := Call → Host → Outcome × Host

namespace Reaction

/-- Carries out a reaction; answers whether the listener got through. -/
def run (perform : Performer) : Reaction → Host → Bool × Host
  | done, h => (true, h)
  | failed, h => (false, h)
  | call c next, h => (next (perform c h).1).run perform (perform c h).2
  | review next, h => (next h.heard).run perform h

end Reaction

namespace Host

/-- The event that a listener failed. -/
def listenerFailed (l : Listener) (d : Decision) : Event :=
  ⟨.error, channel,
    "engine.listener_failed flag=" ++ d.flagKey ++ " listener=<listener " ++ l.name ++ ">"⟩

/-- Remembers that a listener hears of a decision. -/
def hear (h : Host) (l : Listener) (d : Decision) (context : Context) : Host :=
  { h with heard := h.heard ++ [⟨l, d, context, h.boundVersion⟩] }

/-- Tells one listener of a decision. -/
def tell (s : Surroundings) (perform : Performer) (d : Decision) (context : Context)
    (l : Listener) (h : Host) : Host :=
  let (through, h) := (s.react l d context).run perform (h.hear l d context)
  if through then h else h.write [listenerFailed l d]

/-- Tells listeners of a decision, one after the other. -/
def notify (s : Surroundings) (perform : Performer) (d : Decision) (context : Context)
    : List Listener → Host → Host
  | [], h => h
  | l :: rest, h => notify s perform d context rest (h.tell s perform d context l)

/-- The version tag of a snapshot. One whose version has too many digits to be written out is not treated
apart: it is given a tag like the others. -/
def tag (snapshot : Option Snapshot) : String :=
  (snapshot.map fun s => toString s.version).getD ""

/-- Reads the clock of an engine, if a moment is not given and the engine has a clock. -/
def clockMoment (id : Engine.Id) (now : Option Moment) (h : Host) : Option Moment × Host :=
  match now, (h.engine id).clock with
  | some m, _ => (some m, h)
  | none, none => (none, h)
  | none, some clock =>
    let e := h.engine id
    (some (clock e.readings), h.setEngine id { e with readings := e.readings + 1 })

/-- The moment at which a flag is evaluated. The present is asked for only if no moment is given and
the decision may depend on it. -/
def decisionMoment (s : Surroundings) (snapshot : Option Snapshot) (flagKey environment : String)
    (now : Option Moment) (h : Host) : Moment × Host :=
  match now with
  | some m => (m, h)
  | none =>
    if Evaluation.dependsOnMoment snapshot flagKey environment then
      (s.present h.readings, { h with readings := h.readings + 1 })
    else (s.present h.readings, h)

/-- Makes a decision from a snapshot and tells the listeners of an engine. -/
def decide (s : Surroundings) (perform : Performer) (id : Engine.Id) (snapshot : Option Snapshot)
    (flagKey environment : String) (context : Context) (fallback : Datum) (now : Option Moment)
    (h : Host) : Except Failure Decision × Host :=
  let former := h.boundVersion
  let (moment, h) :=
    decisionMoment s snapshot flagKey environment now { h with boundVersion := tag snapshot }
  let evaluation := evaluate snapshot flagKey environment context fallback moment
  let h := h.write evaluation.events
  match evaluation.result with
  | .error e => (.error e, { h with boundVersion := former })
  | .ok d =>
    -- The listeners are those of this moment, whatever they change in turn.
    let h := h.notify s perform d context (h.engine id).listeners
    (.ok d, { h with boundVersion := former })

/-- Evaluates a flag with the snapshot of an engine. -/
def evaluateFlag (s : Surroundings) (perform : Performer) (id : Engine.Id)
    (flagKey environment : String) (context : Context) (fallback : Datum) (now : Option Moment)
    (h : Host) : Except Failure Decision × Host :=
  let snapshot := (h.engine id).snapshot
  let (now, h) := h.clockMoment id now
  h.decide s perform id snapshot flagKey environment context fallback now

/-- Decides about flags one after the other, all from one snapshot. -/
def decideAll (s : Surroundings) (perform : Performer) (id : Engine.Id) (snapshot : Snapshot)
    (environment : String) (context : Context) (now : Option Moment)
    : List String → Host → Except Failure (List (String × Decision)) × Host
  | [], h => (.ok [], h)
  | key :: rest, h =>
    match h.decide s perform id (some snapshot) key environment context (.bool false) now with
    | (.error e, h) => (.error e, h)
    | (.ok d, h) =>
      match decideAll s perform id snapshot environment context now rest h with
      | (.error e, h) => (.error e, h)
      | (.ok others, h) => (.ok ((key, d) :: others), h)

/-- Evaluates all flags that have a state in an environment. -/
def evaluateAll (s : Surroundings) (perform : Performer) (id : Engine.Id) (environment : String)
    (context : Context) (now : Option Moment) (h : Host)
    : Except Failure (List (String × Decision)) × Host :=
  match (h.engine id).snapshot with
  | none => (.ok [], h)
  | some snapshot =>
    let (now, h) := h.clockMoment id now
    h.decideAll s perform id snapshot environment context now (snapshot.flagKeysIn environment)

/-- Whether a value is of the sort that is asked for. -/
def isOfKind : Flag.Kind → Datum → Bool
  | .boolean => Datum.isBool
  | .text => Datum.isText

/-- The event that a flag has a value of another sort than was asked for. -/
def otherKind (kind : Flag.Kind) (flagKey : String) (value : Datum) : Event :=
  ⟨.debug, channel,
    "engine.not_" ++ kind.word ++ " flag=" ++ flagKey ++ " value=" ++ value.literal⟩

/-- The value of a flag if it is of the sort that is asked for, and the fallback otherwise. -/
def valueOfKind (s : Surroundings) (perform : Performer) (kind : Flag.Kind) (id : Engine.Id)
    (flagKey environment : String) (context : Context) (fallback : Datum) (h : Host)
    : Except Failure Datum × Host :=
  match h.evaluateFlag s perform id flagKey environment context fallback none with
  | (.error e, h) => (.error e, h)
  | (.ok d, h) =>
    if isOfKind kind d.value then (.ok d.value, h)
    else (.ok fallback, h.write [otherKind kind flagKey d.value])

/-- Whether a feature counts as on. -/
def featureIsOn (s : Surroundings) (perform : Performer) (id : Engine.Id)
    (flagKey environment : String) (context : Context) (h : Host) : Except Failure Bool × Host :=
  let (r, h) := h.evaluateFlag s perform id flagKey environment context (.bool false) none
  (r.map Decision.isEnabled, h)

/-- Carries out a call whose listeners may nest calls so deeply. -/
def perform (s : Surroundings) : Nat → Performer
  | 0, _, h => (.error .tooDeep, h)
  | depth + 1, call, h =>
    match call with
    | .evaluate id flagKey environment context fallback now =>
      let (r, h) :=
        h.evaluateFlag s (perform s depth) id flagKey environment context fallback now
      (r.map .decision, h)
    | .evaluateAll id environment context now =>
      let (r, h) := h.evaluateAll s (perform s depth) id environment context now
      (r.map .decisions, h)
    | .value kind id flagKey environment context fallback =>
      let (r, h) :=
        h.valueOfKind s (perform s depth) kind id flagKey environment context fallback
      (r.map .value, h)
    | .isEnabled id flagKey environment context =>
      let (r, h) := h.featureIsOn s (perform s depth) id flagKey environment context
      (r.map .enabled, h)
    | .load id snapshot =>
      let (r, h) := h.load id snapshot
      (r.map fun _ => .done, h)
    | .publish id snapshot =>
      let (r, h) := h.publish id snapshot
      (r.map .former, h)
    | .addListener id l => (.ok .done, h.addListener id l)
    | .removeListener id l =>
      let (found, h) := h.removeListener id l
      (.ok (.removed found), h)

/-! ### Calls from outside -/

variable (s : Surroundings)

/-- Carries out a call that no listener makes. -/
def handle (call : Call) (h : Host) : Outcome × Host := perform s (s.depth + 1) call h

/-- The full decision about a flag. -/
def decisionOf (id : Engine.Id) (flagKey environment : String) (context : Context)
    (fallback : Datum) (now : Option Moment) (h : Host) : Except Failure Decision × Host :=
  h.evaluateFlag s (perform s s.depth) id flagKey environment context fallback now

/-- The decisions about all flags of an environment. -/
def decisionsOf (id : Engine.Id) (environment : String) (context : Context)
    (now : Option Moment) (h : Host) : Except Failure (List (String × Decision)) × Host :=
  h.evaluateAll s (perform s s.depth) id environment context now

/-- The value of a flag as a truth value. -/
def booleanValue (id : Engine.Id) (flagKey environment : String) (context : Context)
    (fallback : Datum) (h : Host) : Except Failure Datum × Host :=
  h.valueOfKind s (perform s s.depth) .boolean id flagKey environment context fallback

/-- The value of a flag as a text. -/
def textValue (id : Engine.Id) (flagKey environment : String) (context : Context)
    (fallback : Datum) (h : Host) : Except Failure Datum × Host :=
  h.valueOfKind s (perform s s.depth) .text id flagKey environment context fallback

/-- Whether a feature counts as on. -/
def isEnabled (id : Engine.Id) (flagKey environment : String) (context : Context) (h : Host)
    : Except Failure Bool × Host :=
  h.featureIsOn s (perform s s.depth) id flagKey environment context

end Host

end FeatureFlags
