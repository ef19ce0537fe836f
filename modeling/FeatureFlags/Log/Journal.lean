import FeatureFlags.Log.Layout
import FeatureFlags.Log.RotatingFile
import FeatureFlags.Settings

/-! Keeping a log. Records come on channels, whose names are made of parts with points between them.
A channel without a level of its own has that of the channel above it, and in the end that of the
root. What is important enough goes to the outlets: to the console, and to files if that was asked
for.
-/

namespace FeatureFlags.Log

/-- Where lines go, and how they look there. -/
inductive Outlet where
  | console (layout : Layout)
  | file (file : RotatingFile) (layout : Layout)

/-- What can be chosen about a log. -/
structure Options where
  level : String
  /-- Whether lines on the console are for machines. -/
  json : Bool
  /-- Where the files of the log are. -/
  directory : Option String
  /-- The size that a file does not reach. -/
  bound : Int
  /-- The number of former versions of a file that are kept. -/
  kept : Int
  /-- The levels of channels. -/
  channelLevels : List (String × String)

/-- The state of a log. -/
structure Journal where
  rootLevel : Nat
  channelLevels : OrderedMap String Nat
  outlets : List Outlet
  /-- The tags of the records that come now. -/
  tags : Tags
  /-- Where files are written. -/
  directory : Directory

namespace Options

def default : Options := ⟨"INFO", false, none, 10485760, 5, []⟩

/-- The failure that a value has no part of a name. -/
def noPart (x : Datum) (name : String) : Failure :=
  .noPart ("'" ++ x.fullKindName ++ "' object has no attribute '" ++ name ++ "'")

/-- The word for a level. -/
def levelText : Datum → Except Failure String
  | .text s => .ok s
  | x => .error (noPart x "upper")

def directoryPath (x : Datum) : Except Failure (Option String) :=
  match x with
  | .text s => .ok (if s.isEmpty then none else some s)
  | x =>
    if x.isTrue then
      .error (.wrongKind
        ("expected str, bytes or os.PathLike object, not " ++ x.fullKindName))
    else .ok none

def levelTexts (x : Datum) : Except Failure (List (String × String)) :=
  match x with
  | .record entries => entries.mapM fun e => return (e.1, ← levelText e.2)
  | x => if x.isTrue then .error (noPart x "items") else .ok []

def integer (x : Datum) (default : Int) : Int :=
  match x.number? with
  | some (.inl n) => n
  | _ => default

/-- The options that loose entries name. -/
def ofEntries (entries : List (String × Datum)) : Except Failure Options := do
  let value (name : String) (default : Datum) : Datum := (entries.lookup name).getD default
  return {
    level := ← levelText (value "level" (.text default.level))
    json := (value "json_output" .null).isTrue
    directory := ← directoryPath (value "log_dir" .null)
    bound := integer (value "max_bytes" .null) default.bound
    kept := integer (value "backup_count" .null) default.kept
    channelLevels := ← levelTexts (value "module_levels" .null) }

/-- The names of options, after the names of the settings that they come from. -/
def settingNames : List (String × String) :=
  [("log_level", "level"), ("log_json", "json_output"), ("log_dir", "log_dir"),
    ("module_levels", "module_levels")]

/-- The options in a table of settings. The program can ask for every detail itself. -/
def ofSettings (settings : Datum) (verbose : Bool) : Except Failure Options := do
  let runtime ← match settings with
    | .record entries => .ok ((entries.lookup "runtime").getD (.record []))
    | x => .error (noPart x "get")
  match runtime with
  | .record entries =>
    let options := settingNames.filterMap fun e => (entries.lookup e.1).map (e.2, ·)
    ofEntries (if verbose then ("level", .text "DEBUG") :: options else options)
  | x => .error (noPart x "get")

end Options

namespace Journal

/-- A log for which nothing has been chosen yet. -/
def start (directory : Directory) : Journal := ⟨warningLevel, ∅, [], .blank, directory⟩

/-- A change of a log; what was done before a failure stays done. -/
abbrev Change := ExceptT Failure (StateM Journal)

/-! ### Levels -/

/-- The name of the channel above all others. -/
def rootName : String := "root"

def isRoot (channel : String) : Bool := channel.isEmpty || channel == rootName

/-- A channel and the channels above it, except for the root. -/
def ancestry (channel : String) : List String :=
  let parts := (Path.splitOn '.' channel.toList).map String.ofList
  (List.range parts.length).reverse.map fun n => ".".intercalate (parts.take (n + 1))

/-- The level that was given to a channel itself. -/
def ownLevel (j : Journal) (channel : String) : Nat :=
  if isRoot channel then j.rootLevel else (j.channelLevels.get? channel).getD 0

/-- The level that counts on a channel. -/
def level (j : Journal) (channel : String) : Nat :=
  if isRoot channel then j.rootLevel
  else
    (((ancestry channel).map fun name => (j.channelLevels.get? name).getD 0).find?
      (· ≠ 0)).getD j.rootLevel

def setLevel (channel : String) (level : Nat) (j : Journal) : Journal :=
  if isRoot channel then { j with rootLevel := level }
  else { j with channelLevels := j.channelLevels.insert channel level }

/-- The level for which a word stands; words that mean nothing stand for `default`. -/
def levelOf (word : String) (default : Nat) : Except Failure Nat :=
  match LevelWord.of? word with
  | some meaning => meaning.level?
  | none => .ok default

/-- Whether records of a level on a channel are written. -/
def admits (j : Journal) (channel : String) (level : Int) : Bool :=
  0 < level && j.level channel ≤ level

/-! ### Choices -/

/-- Lines for machines. -/
def machineLayout : Layout := .json (some "%Y-%m-%dT%H:%M:%S")

/-- Lines for people. -/
def consoleLayout : Layout :=
  .human "%(asctime)s [%(name)s] %(levelname)s: %(message)s" (some "%H:%M:%S")

def fileName : String := "flaps.log"

/-- Adds a file to the outlets. -/
def openFile (options : Options) (directory : String) : Change Unit := do
  let j ← get
  match j.directory.fileIn directory fileName with
  | .error e => throw (Failure.file e)
  | .ok path =>
    let file : RotatingFile := ⟨path, options.bound, options.kept⟩
    set { j with
      outlets := j.outlets ++ [Outlet.file file machineLayout]
      directory := j.directory.write path (file.bytes j.directory) }

/-- Gives channels their levels. -/
def setLevels (default : Nat) : List (String × String) → Change Unit
  | [] => return
  | (channel, word) :: rest => do
    let level ← levelOf word default
    modify (setLevel channel level)
    setLevels default rest

/-- Chooses anew what is written, how and where. -/
def configure (options : Options) : Change Unit := do
  -- The former outlets are gone even if the word for the level is refused.
  modify fun j => { j with outlets := [] }
  let level ← levelOf options.level 20
  modify fun j =>
    { j with
      rootLevel := level
      outlets := [.console (if options.json then machineLayout else consoleLayout)] }
  match options.directory with
  | some directory => openFile options directory
  | none => pure ()
  setLevels level options.channelLevels

/-- Gives some of the tags values. -/
def bind (values : List (String × Datum)) (j : Journal) : Journal :=
  { j with tags := j.tags.update values }

/-! ### Records -/

/-- Writes a record to an outlet; what goes to the console is put behind `shown`. A record that
cannot be written is passed over. -/
def writeTo (r : Record) (state : String × Journal) (outlet : Outlet) : String × Journal :=
  let (shown, j) := state
  let r := r.tagged j.tags
  match outlet with
  | .console layout =>
    match layout.line r with
    | .ok line => (shown ++ line ++ "\n", j)
    | .error _ => (shown, j)
  | .file file layout =>
    match layout.line r with
    | .ok line => (shown, { j with directory := file.append line j.directory })
    | .error _ => (shown, j)

/-- Writes a record to all outlets; answers with what goes to the console. Without outlets the
messages of warnings and of what is worse go there. -/
def write (r : Record) (j : Journal) : String × Journal :=
  match j.outlets with
  | [] =>
    if (warningLevel : Int) ≤ r.level then
      match Layout.bareLine Layout.bareTemplate none r with
      | .ok line => (line ++ "\n", j)
      | .error _ => ("", j)
    else ("", j)
  | outlets => outlets.foldl (writeTo r) ("", j)

/-- Makes a record and writes it if it is important enough. -/
def log (now : Moment) (channel : String) (level : Int) (message : Datum) (values : List Datum)
    (j : Journal) : String × Journal :=
  if j.admits channel level then
    write ⟨now, level, levelName level, if isRoot channel then rootName else channel, message,
      values, [], .absent⟩ j
  else ("", j)

/-- Changes the level of the root; a word that means nothing changes nothing. Answers with what goes
to the console. -/
def updateLevel (now : Moment) (word : String) : Change String := do
  match LevelWord.of? word with
  | none => return ""
  | some meaning =>
    let level ← meaning.level?
    modify fun j => { j with rootLevel := level }
    modifyGet fun j =>
      j.log now "flaps.runtime.logging_config" 20 (.text "Log level changed to %s") [.text word]

end Journal

end FeatureFlags.Log
