import FeatureFlags.Event
import FeatureFlags.Field.Basic
import FeatureFlags.Files.Text
import FeatureFlags.Toml.Reader

/-! Settings, read from a TOML file. Mistakes are reported when the program starts. A missing file or
section is the same as an empty one, unless the file was asked for.
-/

namespace FeatureFlags

/-- Settings of the running program. -/
structure RuntimeSettings where
  logLevel : Level
  logJson : Bool
  logDirectory : Option String
  moduleLevels : Option (OrderedMap String String)

/-- Settings of the engine. -/
structure EngineSettings where
  defaultEnvironment : String
  snapshotPath : Option String
  rejectsStale : Bool
deriving DecidableEq, Repr

/-- All settings. -/
structure Settings where
  runtime : RuntimeSettings
  engine : EngineSettings
  /-- Sections that mean nothing here. -/
  extra : List (String × Datum)

/-- Variables of the environment; one that is empty counts as missing. -/
structure Variables where
  /-- Where the settings are. -/
  configPath : Option String
  /-- The environment to be used by default. -/
  environment : Option String

namespace Variables

/-- A variable that is not empty. -/
def proper (x : Option String) : Option String := x.filter fun s => !s.isEmpty

end Variables

namespace RuntimeSettings

def default : RuntimeSettings := ⟨.info, false, none, none⟩

/-- Reads a level by its name. -/
def readLevel (x : Datum) : Checked Level :=
  match x.text?.bind fun s => Level.all.find? fun l => l.name == s with
  | some l => .ok l
  | none => .issue (.notLevel (Level.all.map Level.name))

/-- Reads settings of the running program. -/
def read : Datum → Checked RuntimeSettings :=
  Field.record "RuntimeConfig" fun entries =>
    RuntimeSettings.mk
      <$> Field.optional entries "log_level" .info readLevel
      <*> Field.optional entries "log_json" false Field.boolean
      <*> Field.optional entries "log_dir" none (Field.nullable Field.text)
      <*> Field.optional entries "module_levels" none
        (Field.nullable (Field.mapping Field.text))

/-- Settings of the running program as loose data. -/
def datum (s : RuntimeSettings) : Datum :=
  .record [("log_level", .text s.logLevel.name), ("log_json", .bool s.logJson),
    ("log_dir", (s.logDirectory.map .text).getD .null),
    ("module_levels", (s.moduleLevels.map fun m =>
      .record (m.entries.map fun e => (e.1, .text e.2))).getD .null)]

end RuntimeSettings

namespace EngineSettings

def default : EngineSettings := ⟨"production", none, true⟩

/-- Reads the name of an environment, white space at its ends aside. -/
def readEnvironment : Datum → Checked String
  | .text s =>
    Field.properText (.text (String.ofList (Unicode.trim Unicode.space.contains s.toList)))
  | x => Field.properText x

/-- Reads settings of the engine. -/
def read : Datum → Checked EngineSettings :=
  Field.record "EngineConfig" fun entries =>
    EngineSettings.mk
      <$> Field.optional entries "default_environment" default.defaultEnvironment readEnvironment
      <*> Field.optional entries "snapshot_path" none (Field.nullable Field.text)
      <*> Field.optional entries "reject_stale_snapshots" true Field.boolean

/-- Settings of the engine as loose data. -/
def datum (s : EngineSettings) : Datum :=
  .record [("default_environment", .text s.defaultEnvironment),
    ("snapshot_path", (s.snapshotPath.map .text).getD .null),
    ("reject_stale_snapshots", .bool s.rejectsStale)]

end EngineSettings

namespace Settings

def defaultPath : String := "config.toml"

/-- Reads all settings. -/
def read : Datum → Checked Settings :=
  Field.record "FlapsConfig" fun entries =>
    (fun runtime engine =>
      Settings.mk runtime engine
        (entries.filter fun e => e.1 != "runtime" && e.1 != "engine"))
      <$> Field.optional entries "runtime" .default RuntimeSettings.read
      <*> Field.optional entries "engine" .default EngineSettings.read

/-- Puts the environment to be used by default into the settings of the engine. -/
def override (environment : String) (entries : List (String × Datum))
    : Except Failure (List (String × Datum)) :=
  let name := "default_environment"
  match (entries.lookup "engine").getD (.record []) with
  | .record table =>
    let table := Datum.putEntry name (.text environment) table
    .ok (Datum.putEntry "engine" (.record table) entries)
  | .list _ => .error (.wrongKind "list indices must be integers or slices, not str")
  | x => .error (.notTable x.fullKindName)

/-- Where the settings are, and whether they were asked for there. -/
def location (path : Option String) (vars : Variables) : String × Bool :=
  match path.or (Variables.proper vars.configPath) with
  | some path => (Path.normal path, true)
  | none => (defaultPath, false)

/-- The tables in the file of the settings. -/
def readTables (path : String) (asked : Bool) (content : FileContent)
    : Except Failure (List (String × Datum)) :=
  let missing : Except Failure (List (String × Datum)) :=
    if asked then
      .error (.fault (.of .configMissing ("config file not found: " ++ path)
        [("path", .text path)]))
    else .ok []
  match content with
  | .error .notFound | .error .notDirectory => missing
  | content => do
    (Toml.read (← Files.text content)).mapError
      (.ofUnread fun message =>
        .fault (.of .configInvalid (path ++ ": " ++ message) [("path", .text path)]))

/-- The event that the settings were loaded. -/
def loaded (path : String) (s : Settings) : Event :=
  ⟨.debug, "flaps.config",
    "config.loaded path=" ++ path ++ " log_level=" ++ s.runtime.logLevel.name ++
      " environment=" ++ s.engine.defaultEnvironment ++ " snapshot=" ++
      s.engine.snapshotPath.getD "None"⟩

/-- The settings in the file at a path, whose content is given. -/
def load (path : String) (asked : Bool) (vars : Variables) (content : FileContent)
    : Traced Settings := do
  let entries ← .lift (readTables path asked content)
  let entries ← .lift (match Variables.proper vars.environment with
    | some environment => override environment entries
    | none => .ok entries)
  match read (.record entries) with
  | .ok settings =>
    .emit (settings.loaded path)
    return settings
  | .issues issues =>
    .fail (.fault (.of .configInvalid
      (path ++ ": " ++ toString issues.length ++ " invalid value(s)")
      [("path", .text path), ("errors", .list (issues.map Issue.datum))]))
  | .failure e => .fail e

/-- Settings as loose data. -/
def datum (s : Settings) : Datum :=
  .record [("runtime", s.runtime.datum), ("engine", s.engine.datum), ("extra", .record s.extra)]

end Settings

end FeatureFlags
