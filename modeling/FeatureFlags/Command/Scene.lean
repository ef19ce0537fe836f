import FeatureFlags.Command.Run

/-! A world in a value: a log that writes into a directory, and what has appeared on the console.
-/

namespace FeatureFlags.Command

/-- What commands leave behind, besides what they show. -/
structure Scene where
  log : Log.Journal
  console : String

namespace Scene

/-- A scene in which nothing has happened yet. -/
def start (directory : Directory) : Scene := ⟨.start directory, ""⟩

/-- Logs an event with tags. -/
def record (now : Moment) (tags : Log.Tags) (e : Event) (s : Scene) : Scene :=
  let (line, log) :=
    { s.log with tags }.log now e.channel e.level.number (.text e.message) []
  ⟨{ log with tags := s.log.tags }, s.console ++ line⟩

/-- Chooses the log. -/
def openLog (options : Log.Options) (s : Scene) : Except Failure Unit × Scene :=
  let (result, log) := (ExceptT.run (Log.Journal.configure options)).run s.log
  (result, { s with log })

/-- The world of a scene, in which it is always the same moment. -/
def world (vars : Variables) (width : Nat) (now : Moment) : World (StateM Scene) where
  readFile path := do return (← get).log.directory.read path
  now := return now
  requestId := return ""
  openLog options := modifyGet (openLog options)
  log tags e := modify (record now tags e)
  vars
  width

end Scene

/-- Runs a command line in a directory. -/
def runIn (directory : Directory) (vars : Variables) (width : Nat) (now : Moment)
    (arguments : List String)
    : Outcome × Scene := (run (Scene.world vars width now) arguments).run (.start directory)

end FeatureFlags.Command
