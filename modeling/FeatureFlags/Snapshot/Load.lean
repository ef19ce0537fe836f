import FeatureFlags.Files.Text
import FeatureFlags.Snapshot.Document
import FeatureFlags.Toml.Reader

/-! Loading snapshots from files that hold a document as JSON or TOML text.
-/

namespace FeatureFlags.Snapshot

/-- The fault of a file that holds no document. -/
def badFile (path message : String) : Failure :=
  .fault (.of .snapshotInvalid message [("path", .text path)])

/-- The data in a file whose name has a given ending. -/
def readData (path kind : String) (content : FileContent) : Except Failure Datum :=
  if kind = ".json" then do
    (Json.read (Files.unifyLineEnds (← Files.text content))).mapError
      (.ofUnread fun fault => badFile path (path ++ ": " ++ fault.message))
  else if kind = ".toml" then do
    let entries ← (Toml.read (← Files.text content)).mapError
      (.ofUnread fun message => badFile path (path ++ ": " ++ message))
    return .record entries
  else
    let shown := if kind.isEmpty then "(none)" else kind
    .error (badFile path
      ("unsupported snapshot format " ++ Quoted.quote shown ++ ": use .json or .toml"))

/-- The event that a snapshot was loaded. -/
def loaded (path : String) (s : Snapshot) : Event :=
  ⟨.debug, "flaps.loader",
    "loader.snapshot_loaded path=" ++ path ++ " version=" ++ toString s.version ++ " flags=" ++
      toString s.flags.size⟩

/-- Loads a snapshot from the file at a path, whose content is given. -/
def load (path : String) (content : FileContent) : Traced Snapshot := do
  let path := Path.normal path
  match ← .lift (readData path (Path.kind path) content) with
  | .record entries =>
    let snapshot ← parse (.record entries)
    .emit (snapshot.loaded path)
    return snapshot
  | _ => .fail (badFile path (path ++ ": top level must be an object"))

end FeatureFlags.Snapshot
