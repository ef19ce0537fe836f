import FeatureFlags.Failure
import FeatureFlags.Files.Path
import FeatureFlags.OrderedMap

/-! A directory with files in it and in directories below it, as a value.
-/

namespace FeatureFlags

/-- The bytes of a file, or why they cannot be read. -/
abbrev FileContent := Except FileError (List Nat)

/-- The bytes of files by their paths. -/
structure Directory where
  files : OrderedMap String (List Nat)

namespace Directory

def empty : Directory := ⟨∅⟩

/-- Whether a sequence of names leads to a directory. -/
def isDirectory (d : Directory) (names : List String) : Bool :=
  names.isEmpty || d.files.keys.any fun path =>
    names.isPrefixOf (Path.names path) && Path.names path ≠ names

def bytesAt? (d : Directory) (names : List String) : Option (List Nat) :=
  (d.files.entries.find? fun e => Path.names e.1 == names).map Prod.snd

/-- Follows names from a place within the directory. -/
def walk (d : Directory) (place : List String) : List String → FileContent
  | [] =>
    match d.bytesAt? place with
    | some bytes => .ok bytes
    | none => .error (if d.isDirectory place then .isDirectory else .notFound)
  | name :: rest =>
    if d.isDirectory place then
      walk d (if name = ".." then place.dropLast else place ++ [name]) rest
    else .error (if (d.bytesAt? place).isSome then .notDirectory else .notFound)

/-- Reads a file. -/
def read (d : Directory) (path : String) : FileContent :=
  if Path.root path = "" then d.walk [] (Path.names path) else .error .notFound

/-- Gives a file a content. -/
def write (d : Directory) (path : String) (bytes : List Nat) : Directory :=
  ⟨d.files.insert (Path.normal path) bytes⟩

/-- Gives a file another path, in place of what was there. -/
def rename (d : Directory) (source target : String) : Directory :=
  match d.files.get? (Path.normal source) with
  | some bytes =>
    ⟨((d.files.erase (Path.normal source)).erase (Path.normal target)).insert
      (Path.normal target) bytes⟩
  | none => d

/-- Follows names from a place, making the directories that are missing; answers with the place
that is reached. -/
def enter (d : Directory) (place : List String) : List String → Except FileError (List String)
  | [] => .ok place
  | name :: rest =>
    let next := if name = ".." then place.dropLast else place ++ [name]
    if (d.bytesAt? next).isSome then .error (if rest.isEmpty then .occupied else .notDirectory)
    else enter d next rest

/-- The path of a file that is to be written in a directory, which is made if it is missing. -/
def fileIn (d : Directory) (directory name : String) : Except FileError String := do
  let place ← d.enter [] (Path.names directory)
  let path := Path.root directory ++ "/".intercalate (place ++ [name])
  if d.isDirectory (place ++ [name]) then throw .isDirectory else return path

end Directory

end FeatureFlags
