import FeatureFlags.Files.Directory

/-! Files that do not grow without bound. Before a line would take a file to its greatest size, the
file becomes the first of its former versions, each of these the next one, and the last of them is
dropped.
-/

namespace FeatureFlags.Log

/-- A file that is written line by line. -/
structure RotatingFile where
  path : String
  /-- The size that the file does not reach; without bound if it is not positive. -/
  bound : Int
  /-- The number of former versions that are kept. -/
  kept : Int
deriving DecidableEq, Repr

namespace RotatingFile

/-- The path of a former version. -/
def formerPath (f : RotatingFile) (n : Nat) : String := f.path ++ "." ++ toString n

/-- Makes each of the first `count` former versions the next one, from the last on. -/
def shift (f : RotatingFile) : Nat → Directory → Directory
  | 0, d => d
  | count + 1, d =>
    f.shift count (d.rename (f.formerPath (count + 1)) (f.formerPath (count + 2)))

/-- Starts the file anew. If no former versions are kept it stays as it is. -/
def rollOver (f : RotatingFile) (d : Directory) : Directory :=
  if 0 < f.kept then
    ((f.shift (f.kept.toNat - 1) d).rename f.path (f.formerPath 1)).write f.path []
  else d

def bytes (f : RotatingFile) (d : Directory) : List Nat :=
  (d.files.get? (Path.normal f.path)).getD []

/-- Whether a line takes the file to its greatest size. -/
def isFull (f : RotatingFile) (line : String) (d : Directory) : Bool :=
  0 < f.bound && f.bound ≤ (f.bytes d).length + line.length

/-- Puts a line at the end of the file. -/
def append (f : RotatingFile) (line : String) (d : Directory) : Directory :=
  let line := line ++ "\n"
  let d := if f.isFull line d then f.rollOver d else d
  d.write f.path (f.bytes d ++ Utf8.encode line)

end RotatingFile

end FeatureFlags.Log
