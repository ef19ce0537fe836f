import FeatureFlags.Files.Directory

/-! Files as texts.
-/

namespace FeatureFlags.Files

/-- Line ends of every form as line feeds. -/
def unifyLineEnds : List Char → List Char
  | '\r' :: '\n' :: rest => '\n' :: unifyLineEnds rest
  | '\r' :: rest => '\n' :: unifyLineEnds rest
  | c :: rest => c :: unifyLineEnds rest
  | [] => []

/-- The text of a file. -/
def text (content : FileContent) : Except Failure (List Char) :=
  match content with
  | .error e => .error (.file e)
  | .ok bytes =>
    match Utf8.decode bytes with
    | .ok s => .ok s
    | .error fault => .error (.bytes fault)

end FeatureFlags.Files
