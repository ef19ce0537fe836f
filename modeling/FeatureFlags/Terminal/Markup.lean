import FeatureFlags.Failure
import FeatureFlags.Terminal.Style

/-! Text with markup. A tag stands in square brackets and switches a style on, or off if it begins
with a slash; a slash alone ends the style that began last. Tags are not shown. A backslash in front
of a tag makes it plain text, and two of them stand for one.
-/

namespace FeatureFlags.Terminal

/-- What stands in brackets. -/
structure Tag where
  name : List Char
  /-- What follows an equals sign. -/
  parameters : Option (List Char)
deriving DecidableEq, Repr

namespace Tag

def of (content : List Char) : Tag :=
  match content.dropWhile (· ≠ '=') with
  | _ :: parameters => ⟨content.takeWhile (· ≠ '='), some parameters⟩
  | [] => ⟨content, none⟩

/-- The tag as it was written. -/
def markup (t : Tag) : String :=
  "[" ++ String.ofList t.name ++
    (t.parameters.map fun p => "=" ++ String.ofList p).getD "" ++ "]"

/-- Whether a tag may begin with a character. -/
def isStart (c : Char) : Bool := ('a' ≤ c && c ≤ 'z') || c = '#' || c = '/' || c = '@'

/-- The content of a tag after its opening bracket. -/
def content? : List Char → Option (List Char)
  | [] => none
  | c :: rest =>
    let content := c :: rest.takeWhile fun c => c ≠ '[' && c ≠ ']'
    if isStart c && (rest.dropWhile fun c => c ≠ '[' && c ≠ ']').head? == some ']' then
      some content
    else none

end Tag

/-- A part of a text with markup. -/
inductive Token where
  | plain (text : List Char)
  /-- A tag and the place of its bracket. -/
  | tag (place : Nat) (tag : Tag)

namespace Markup

/-- Brackets behind backslashes that are no tags lose the backslash. -/
def unescape : List Char → List Char
  | '\\' :: '[' :: rest => '[' :: unescape rest
  | c :: rest => c :: unescape rest
  | [] => []

/-- The parts of a text of which `place` characters have been read; `text` holds those of them that
belong to no part yet, the last one first. -/
def tokens (place : Nat) (text : List Char) (s : List Char) : List Token :=
  match s with
  | [] => [.plain (unescape text.reverse)]
  | c :: rest =>
    let slashes := (s.takeWhile (· = '\\')).length
    let content? :=
      match s.drop slashes with
      | '[' :: inner => Tag.content? inner
      | _ => none
    match content? with
    | some content =>
      let next := place + slashes + content.length + 2
      let after := rest.drop (slashes + content.length + 1)
      .plain (unescape text.reverse) :: .plain (List.replicate (slashes / 2) '\\') ::
        -- An odd backslash is left over for the bracket.
        (if slashes % 2 = 1 then .plain ('[' :: content ++ [']'])
          else .tag (place + slashes) (.of content)) :: tokens next [] after
    | none =>
      if slashes = 0 then tokens (place + 1) (c :: text) rest
      else
        tokens (place + slashes) (List.replicate slashes '\\' ++ text)
          (rest.drop (slashes - 1))
termination_by s.length
decreasing_by all_goals (simp only [List.length_drop, List.length_cons]; omega)

/-- Control characters that are not shown. -/
def isHidden (c : Char) : Bool := [7, 8, 11, 12, 13].contains c.toNat

/-- The list without the first element that passes a test, if there is one. -/
def removeFirst? {α : Type} (test : α → Bool) : List α → Option (List α)
  | [] => none
  | a :: rest => if test a then some rest else (removeFirst? test rest).map (a :: ·)

/-- The text that is shown, given the styles that are switched on, the last one first. -/
def shown (styles : List String) : List Token → Except Failure (List Char)
  | [] => .ok []
  | .plain text :: rest => do
    return text.filter (fun c => !isHidden c) ++ (← shown styles rest)
  | .tag place tag :: rest =>
    match tag.name with
    | '/' :: name =>
      let name := Unicode.trim Unicode.space.contains name
      if name.isEmpty then
        match styles with
        | _ :: styles => shown styles rest
        | [] =>
          .error (.markup
            ("closing tag '[/]' at position " ++ toString place ++ " has nothing to close"))
      else
        match removeFirst? (· == Style.normal name) styles with
        | some styles => shown styles rest
        | none =>
          .error (.markup ("closing tag '" ++ tag.markup ++ "' at position " ++ toString place ++
            " doesn't match any open tag"))
    | name => shown (Style.normal name :: styles) rest

/-- The text that is shown for a text with markup. -/
def render (markup : String) : Except Failure (List Char) := shown [] (tokens 0 [] markup.toList)

/-- A text as markup that shows it unchanged. -/
def escapeFrom (s : List Char) : List Char :=
  match s with
  | [] => []
  | c :: rest =>
    let slashes := (s.takeWhile (· = '\\')).length
    let content? :=
      match s.drop slashes with
      | '[' :: inner => Tag.content? inner
      | _ => none
    match content? with
    | some content =>
      List.replicate (2 * slashes + 1) '\\' ++ '[' :: content ++ ']' ::
        escapeFrom (rest.drop (slashes + content.length + 1))
    | none =>
      if slashes = 0 then c :: escapeFrom rest
      else List.replicate slashes '\\' ++ escapeFrom (rest.drop (slashes - 1))
termination_by s.length
decreasing_by all_goals (simp only [List.length_drop, List.length_cons]; omega)

/-- A text as markup that shows it unchanged; a single backslash at the end is doubled so that it
does not touch what follows. -/
def escape (text : String) : String :=
  let s := escapeFrom text.toList
  let last := (s.reverse.takeWhile (· = '\\')).length
  String.ofList (if last = 1 then s ++ ['\\'] else s)

end Markup

end FeatureFlags.Terminal
