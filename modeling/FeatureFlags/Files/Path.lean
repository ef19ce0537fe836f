import FeatureFlags.Unicode.Case

/-! Paths of files: names separated by slashes.
-/

namespace FeatureFlags.Path

/-- The parts of a text between separators. -/
def splitOn (separator : Char) : List Char → List (List Char)
  | [] => [[]]
  | c :: rest =>
    if c = separator then [] :: splitOn separator rest
    else
      match splitOn separator rest with
      | first :: others => (c :: first) :: others
      | [] => [[c]]

/-- The names of a path, without those that stand for the place itself. -/
def names (path : String) : List String :=
  ((splitOn '/' path.toList).filter fun name => !name.isEmpty && name ≠ ['.']).map String.ofList

/-- The slashes with which a path from the root begins; exactly two of them are kept. -/
def root (path : String) : String :=
  match (path.toList.takeWhile (· = '/')).length with
  | 0 => ""
  | 2 => "//"
  | _ => "/"

/-- The usual form of a path: no names that stand for the place itself and no needless slashes. -/
def normal (path : String) : String :=
  let text := root path ++ "/".intercalate (names path)
  if text.isEmpty then "." else text

/-- The ending of the last name, with its point, if the point is neither first nor last. -/
def suffix (path : String) : String :=
  let reversed := (((names path).getLast?.getD "").toList).reverse
  let ending := reversed.takeWhile (· ≠ '.')
  if ending.isEmpty || reversed.length ≤ ending.length + 1 then ""
  else String.ofList ('.' :: ending.reverse)

/-- The ending of the last name in lower-case letters. -/
def kind (path : String) : String := String.ofList (Unicode.lowerText (suffix path).toList)

end FeatureFlags.Path
