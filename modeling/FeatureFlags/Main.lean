import FeatureFlags.Command.Scene
import Std.Time.DateTime.Timestamp

/-! The program: command lines are run with the files, the clock and the console of the machine.
-/

open FeatureFlags Command

namespace FeatureFlags.Machine

/-- The content of a file. -/
def readFile (path : String) : IO FileContent := do
  try
    let bytes ← IO.FS.readBinFile path
    return .ok (bytes.toList.map UInt8.toNat)
  catch e =>
    match e with
    | .inappropriateType none _ _ => return .error .isDirectory
    | .inappropriateType _ _ _ => return .error .notDirectory
    | _ => return .error .notFound

def writeFile (path : String) (bytes : List Nat) : IO Unit :=
  IO.FS.writeBinFile path ⟨(bytes.map Nat.toUInt8).toArray⟩

/-- The present moment in universal time. -/
def now : IO Moment := do
  let nanoseconds := (← Std.Time.Timestamp.now).toNanosecondsSinceUnixEpoch.val
  let micro := nanoseconds / 1000
  return (Moment.ofEpochSeconds? (micro / 1000000) (micro % 1000000).toNat).getD
    ⟨⟨1970, 1, 1, by decide⟩, .midnight, some 0, none⟩

def requestId : IO String := do
  return String.ofList (Quoted.hexadecimal 32 (← IO.rand 0 (Nat.pow 2 128 - 1)))

/-- A scene whose files are those of the machine. -/
abbrev Stage := StateT Scene IO

/-- Brings the files of the machine up to date with those of the scene. -/
def saveFiles (before after : Directory) : IO Unit :=
  after.files.entries.forM fun (path, bytes) =>
    if before.files.get? path = some bytes then pure () else writeFile path bytes

/-- Shows what was added to the console and saves files. -/
def carryOut (change : Scene → Scene) : Stage Unit := do
  let before ← get
  let after := change { before with console := "" }
  set after
  IO.eprint after.console
  saveFiles before.log.directory after.log.directory

/-- The files of a log that are there already. -/
def logFiles (directory : String) (kept : Int) : IO Directory := do
  let path := directory ++ "/" ++ Log.Journal.fileName
  let former := (List.range kept.toNat).map fun n => path ++ "." ++ toString (n + 1)
  (path :: former).foldlM (fun d p => do
    match ← readFile p with
    | .ok bytes => return d.write p bytes
    | .error _ => return d) .empty

def openLog (options : Log.Options) : Stage (Except Failure Unit) := do
  match options.directory with
  | none => pure ()
  | some directory =>
    try IO.FS.createDirAll directory
    catch _ => return .error (.file .occupied)
    let files ← logFiles directory options.kept
    modify fun s => { s with log := { s.log with directory := files } }
  let (result, s) := (← get).openLog options
  carryOut fun _ => s
  return result

/-- The world of the machine. -/
def world (vars : Variables) (width : Nat) : World Stage where
  readFile path := readFile path
  now := now
  requestId := requestId
  openLog := openLog
  log tags e := do
    let moment ← now
    carryOut (Scene.record moment tags e)
  vars
  width

/-- The width of a terminal that does not say how wide it is. -/
def defaultWidth : Nat := 80

def terminalWidth : IO Nat := do
  return ((← IO.getEnv "COLUMNS").bind String.toNat?).getD defaultWidth

end FeatureFlags.Machine

def main (arguments : List String) : IO UInt32 := do
  let vars : Variables := ⟨← IO.getEnv "FLAPS_CONFIG", ← IO.getEnv "FLAPS_ENVIRONMENT"⟩
  let width ← Machine.terminalWidth
  let (outcome, _) ← (run (Machine.world vars width) arguments).run (.start .empty)
  IO.print outcome.shown
  match outcome.ending with
  | none => return 0
  | some (.exit code) => return code.toUInt32
  | some (.misuse m) =>
    IO.eprintln (usage ++ "Error: " ++ m.message)
    return 2
  | some (.failure f) =>
    IO.eprintln f.message
    return 1
