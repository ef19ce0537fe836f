import FeatureFlags.Command.Request
import FeatureFlags.Event
import FeatureFlags.Log.Journal
import FeatureFlags.Settings
import FeatureFlags.Terminal.Table

/-! Sessions: what a command does with the world around it, what it shows, and how it ends. What was
shown before a command ends for whatever reason stays shown.
-/

namespace FeatureFlags.Command

/-- The world around a command. -/
structure World (m : Type → Type) where
  readFile : String → m FileContent
  now : m Moment
  /-- A name for the request, by which its log records can be found. -/
  requestId : m String
  openLog : Log.Options → m (Except Failure Unit)
  log : Log.Tags → Event → m Unit
  vars : Variables
  /-- The number of cells in a line of the terminal. -/
  width : Nat

/-- How a command ends before its work is done. -/
inductive Ending where
  /-- It has said why, and answers with a code. -/
  | exit (code : Nat)
  | misuse (m : Misuse)
  | failure (f : Failure)

/-- What a command has shown, and how it ended if its work was not done. -/
structure Outcome where
  shown : String
  ending : Option Ending

/-- Something that a command does. -/
abbrev Session (m : Type → Type) := ExceptT Ending (StateT String m)

namespace Session

variable {m : Type → Type} [Monad m] {α : Type}

/-- Does something in the world. -/
def act (x : m α) : Session m α := ExceptT.lift (liftM x)

def leave (e : Ending) : Session m α := throw e

/-- Goes on with a value, or ends with a failure. -/
def need (x : Except Failure α) : Session m α :=
  match x with
  | .ok a => return a
  | .error f => leave (.failure f)

/-- Goes on with a value, or says that the command line cannot be used. -/
def expect (x : Except Misuse α) : Session m α :=
  match x with
  | .ok a => return a
  | .error e => leave (.misuse e)

/-- Shows a text as it is. -/
def showText (text : String) : Session m Unit := modify fun shown : String => shown ++ text

/-- Shows lines. -/
def showLines (lines : List (List Char)) : Session m Unit :=
  showText (String.ofList (lines.flatMap fun line => line ++ ['\n']))

/-- Shows text with markup, wrapped to the width of the terminal. -/
def say (w : World m) (markup : String) : Session m Unit := do
  let text ← need (Terminal.Markup.render markup)
  showLines (Terminal.Wrap.layOut w.width .fold .unset text)

/-- Says that something is wrong and ends. -/
def complain (w : World m) (markup : String) : Session m α := do
  say w markup
  leave (.exit 1)

/-- Goes on with a value; faults are explained. -/
def needOrExplain (w : World m) (x : Except Failure α) : Session m α :=
  match x with
  | .error (.fault f) =>
    complain w ("[red]" ++ f.kind.code ++ ":[/red] " ++ Terminal.Markup.escape f.message)
  | x => need x

/-- Logs events. -/
def logAll (w : World m) (tags : Log.Tags) (events : List Event) : Session m Unit :=
  act (events.forM (w.log tags))

/-- Logs the events of a computation and goes on with its result. -/
def traced (w : World m) (tags : Log.Tags) (x : Traced α) : Session m (Except Failure α) := do
  logAll w tags x.events
  return x.result

/-- The outcome of a session. -/
def run (s : Session m Unit) : m Outcome := do
  let (result, shown) ← (ExceptT.run s).run ""
  return match result with
    | .ok () => ⟨shown, none⟩
    | .error e => ⟨shown, some e⟩

end Session

end FeatureFlags.Command
