import FeatureFlags.Command.Session
import FeatureFlags.Context.Builder
import FeatureFlags.Evaluation
import FeatureFlags.Snapshot.Load
import FeatureFlags.Unicode.Alphanumeric

/-! The commands.
-/

namespace FeatureFlags.Command

open Session

variable {m : Type → Type} [Monad m]

/-- The settings. -/
def settings (w : World m) (tags : Log.Tags) : Session m Settings := do
  let (path, asked) := Settings.location none w.vars
  needOrExplain w (← traced w tags (Settings.load path asked w.vars (← act (w.readFile path))))

/-- The environment that was asked for, or that of the settings. -/
def chosenEnvironment (asked : Option String) (s : Settings) : String :=
  (Variables.proper asked).getD s.engine.defaultEnvironment

/-- The snapshot in a file. -/
def snapshot (w : World m) (tags : Log.Tags) (path : String) : Session m Snapshot := do
  match ← act (w.readFile path) with
  | .error .notFound | .error .notDirectory =>
    complain w ("[red]File not found: " ++ Path.normal path ++ "[/red]")
  | content => do needOrExplain w (← traced w tags (Snapshot.load path content))

/-- The path of a snapshot that was asked for, or that of the settings. -/
def chosenPath (w : World m) (asked : Option String) (s : Settings) : Session m String :=
  match asked, Variables.proper s.engine.snapshotPath with
  | some path, _ => return path
  | none, some path => return path
  | none, none =>
    complain w "[red]No snapshot given and engine.snapshot_path is not configured.[/red]"

/-- The attributes that were given on the command line. -/
def readAttributes (b : Context.Builder) : List String → Session m Context.Builder
  | [] => return b
  | text :: rest => do
    let (name, value) ← expect (Request.splitAttribute text)
    match b.add (.text name) (← need (Request.looseValue value)) with
    | .ok b => readAttributes b rest
    | .error (.fault f) => leave (.misuse (.badValue f.message))
    | .error f => leave (.failure f)

/-- The fallback that was given on the command line; what is neither a truth value nor a text in
quotes is taken as it was written. -/
def fallbackValue : Option String → Except Failure Datum
  | none => .ok (.bool false)
  | some text => do
    match ← Request.looseValue text with
    | .bool b => return .bool b
    | .text s => return .text s
    | _ => return .text text

/-- The lines about a decision. -/
def decisionLines (d : Decision) : List (Except Failure String) :=
  [do return "[bold]" ++ d.flagKey ++ "[/bold] = " ++ (← Json.write Json.compact d.value),
    .ok ("  reason: " ++ d.reason.word)] ++
  (match d.ruleId with
    | some id => if id.isEmpty then [] else [.ok ("  rule: " ++ id)]
    | none => []) ++
  (match d.inRollout with
    | some b => [.ok ("  in rollout: " ++ Datum.literal (.bool b))]
    | none => []) ++
  [.ok ("  enabled: " ++ Datum.literal (.bool d.isEnabled)),
    do return "  snapshot: v" ++ (← (d.snapshotVersion.elim (.ok "None") Failure.numeral))]

/-- JSON as it is shown: indented, with characters of all kinds. -/
def shownJson : Json.Layout := ⟨false, some 2⟩

/-- The event that a flag was evaluated. -/
def evaluated (environment : String) (d : Decision) : Event :=
  ⟨.debug, "flaps.cli.main",
    "cli.evaluate flag=" ++ d.flagKey ++ " env=" ++ environment ++ " reason=" ++ d.reason.word⟩

/-- Evaluates a flag and shows the decision. -/
def runEvaluate (w : World m) (path flagKey : String)
    (environment entity fallback : Option String) (attributes : List String)
    (moment : Option Moment) (json : Bool)
    : Session m Unit := do
  let settings ← settings w .blank
  let environment := chosenEnvironment environment settings
  let tags : Log.Tags :=
    { Log.Tags.blank with
      requestId := .text (← act w.requestId)
      environment := .text environment }
  let snapshot ← snapshot w tags path
  let builder ← readAttributes (.start (.text (entity.getD ""))) attributes
  let context ← need builder.build
  let now ← match moment with
    | some moment => pure moment
    | none => act w.now
  let fallback ← need (fallbackValue fallback)
  let versioned :=
    { tags with snapshotVersion := .text (← need (Failure.numeral snapshot.version)) }
  let decision ← need (← traced w versioned
    (evaluate (some snapshot) flagKey environment context fallback now))
  logAll w tags [evaluated environment decision]
  if json then showText ((← need (Json.write shownJson decision.datum)) ++ "\n")
  else (decisionLines decision).forM fun line => do say w (← need line)

/-- Shows a bucket. -/
def runBucket (w : World m) (scope entity : String) (percentage : Option Percentage)
    : Session m Unit := do
  say w ("bucket(" ++ Quoted.quote scope ++ ", " ++ Quoted.quote entity ++ ") = " ++
    toString (Rollout.bucket scope entity))
  match percentage with
  | none => return
  | some p =>
    let verdict := if p.includes scope entity then "in" else "out"
    say w (toString p.value ++ "% rollout: " ++ verdict)

/-- Checks a snapshot. -/
def runValidate (w : World m) (path : Option String) : Session m Unit := do
  let settings ← settings w .blank
  let s ← snapshot w .blank (← chosenPath w path settings)
  let version ← need (Failure.numeral s.version)
  say w ("[green]OK[/green] version " ++ version ++ ": " ++ toString s.flags.size ++
    " flags, " ++ toString s.states.size ++ " states, " ++ toString s.segments.size ++
    " segments, " ++ toString s.environments.elements.length ++ " environments")

/-- The row of the table that is about a flag. -/
def flagRow (s : Snapshot) (environment key : String)
    : Option (Except Failure (List String)) := do
  let flag ← s.flags.get? key
  let state ← s.states.get? (key, environment)
  return (Json.write Json.compact state.defaultValue.datum).map fun value =>
    [key, flag.kind.word, if state.enabled then "yes" else "no",
      if state.killSwitch then "ON" else "", value,
      ((state.percentage.map fun p => toString p.value ++ "%").getD "-"),
      toString state.rules.rules.length]

/-- Lists the flags of an environment. -/
def runFlags (w : World m) (path environment : Option String) : Session m Unit := do
  let settings ← settings w .blank
  let environment := chosenEnvironment environment settings
  let s ← snapshot w .blank (← chosenPath w path settings)
  match s.flagKeysIn environment with
  | [] => say w ("No flags configured in " ++ environment ++ ".")
  | keys =>
    let version ← need (Failure.numeral s.version)
    let table : Terminal.Table :=
      { title := "Flags (" ++ environment ++ ", v" ++ version ++ ")"
        heads := ["key", "type", "enabled", "kill", "default", "rollout", "rules"]
        rows := ← need ((keys.filterMap (flagRow s environment)).mapM id) }
    showLines (← need (table.lines w.width))

def usage : String := "Usage: flaps [OPTIONS] COMMAND [ARGS]...\n"

/-- Does what was asked for. -/
def runRequest (w : World m) : Request → Session m Unit
  | .evaluate path flagKey environment entity fallback attributes moment json =>
    runEvaluate w path flagKey environment entity fallback attributes moment json
  | .bucket scope entity percentage => runBucket w scope entity percentage
  | .validate path => runValidate w path
  | .flags path environment => runFlags w path environment
  | .help => showText usage

/-- The name of the command and what follows it. What follows a name that is none and begins with a
mark is searched for options before the name is refused. -/
def splitCommand (operands : List String) : Except Misuse (String × List String) :=
  match operands with
  | [] => .error (.wrong "Missing command.")
  | name :: rest =>
    if Request.commandNames.contains name then .ok (name, rest)
    else do
      if !(name.toList.take 1).all Unicode.alphanumeric.contains then
        let _ ← Arguments.read Request.commonSwitches false rest
      throw (Request.noCommand name)

/-- Chooses the log after the settings. -/
def openLog (w : World m) (verbose : Bool) : Session m Unit := do
  let settings ← settings w .blank
  let options ← need (Log.Options.ofSettings settings.datum verbose)
  need (← act (w.openLog options))

/-- Runs a command line. -/
def run (w : World m) (arguments : List String) : m Outcome :=
  Session.run do
    let common ← expect (Arguments.read Request.commonSwitches false arguments)
    if common.has "help" then showText usage
    else
      let (name, rest) ← expect (splitCommand common.operands)
      openLog w (common.has "verbose")
      runRequest w (← expect (Request.read name rest))

end FeatureFlags.Command
