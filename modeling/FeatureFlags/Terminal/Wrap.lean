import FeatureFlags.Unicode.Decimal
import FeatureFlags.Unicode.Width

/-! Laying out text in lines of a limited number of cells. Lines are broken between words; a word that
is too long for any line is broken itself or cut off.
-/

namespace FeatureFlags.Terminal

/-- What happens to words that are too long. -/
inductive Overflow where
  /-- They go on in the next line. -/
  | fold
  /-- They are cut off, and three dots stand for the rest. -/
  | ellipsis
deriving DecidableEq, Repr

/-- Where the text of a line stands. -/
inductive Alignment where
  | unset
  | left
  | center
deriving DecidableEq, Repr

namespace Wrap

def isBlank (c : Char) : Bool := Unicode.space.contains c

/-- The lines of a text. -/
def lines (text : List Char) : List (List Char) :=
  text.foldr (fun c lines =>
    match lines with
    | line :: others => if c = '\n' then [] :: line :: others else (c :: line) :: others
    | [] => if c = '\n' then [[], []] else [[c]]) [[]]

/-- Tabs as blanks up to the next multiple of eight cells, from a cell on. -/
def expandTabs (cell : Nat) : List Char → List Char
  | [] => []
  | '\t' :: rest =>
    let count := 8 - cell % 8
    List.replicate count ' ' ++ expandTabs (cell + count) rest
  | c :: rest => c :: expandTabs (cell + Unicode.cells c) rest

/-- A text without the blanks at its end. -/
def trimEnd (text : List Char) : List Char := (text.reverse.dropWhile isBlank).reverse

/-- The words of a line, each with the blanks behind it; the first one has those before it, too. A
line of blanks has no words. -/
def words (line : List Char) : List (List Char) :=
  let start := line.takeWhile isBlank
  let parts := (line.dropWhile isBlank).splitBy fun a b => !(isBlank a && !isBlank b)
  match parts with
  | [] => []
  | first :: rest => (start ++ first) :: rest

/-- Cuts a word into pieces that have room in a line. -/
def chop (width : Nat) (used : Nat) (piece : List Char) : List Char → List (List Char)
  | [] => [piece.reverse]
  | c :: rest =>
    if width < used + Unicode.cells c then
      piece.reverse :: chop width (Unicode.cells c) [c] rest
    else chop width (used + Unicode.cells c) (c :: piece) rest

/-- Lines that are being filled. -/
structure Page where
  /-- The lines that are full, the last one first. -/
  full : List (List Char)
  line : List Char
  /-- The cells of the line that are taken. -/
  used : Nat

namespace Page

def blank : Page := ⟨[], [], 0⟩

/-- Starts a new line with a text, unless the present one is empty. -/
def startLine (p : Page) (text : List Char) : Page :=
  ⟨if p.line.isEmpty then p.full else p.line :: p.full, text, Unicode.cellLength text⟩

/-- Adds a word. -/
def add (width : Nat) (overflow : Overflow) (p : Page) (word : List Char) : Page :=
  let size := Unicode.cellLength (trimEnd word)
  if p.used + size ≤ width then
    { p with line := p.line ++ word, used := p.used + Unicode.cellLength word }
  -- Only a word that no line has room for is cut into pieces.
  else if width < size ∧ overflow = .fold then (chop width 0 [] word).foldl startLine p
  else p.startLine word

def lines (p : Page) : List (List Char) := (p.line :: p.full).reverse

end Page

/-- Breaks a line between its words. -/
def divide (width : Nat) (overflow : Overflow) (line : List Char) : List (List Char) :=
  match words line with
  | [] => [line]
  | words => (words.foldl (Page.add width overflow) .blank).lines

/-- Removes blanks at the end of a line as far as it is too long. -/
def cropEnd (width : Nat) (line : List Char) : List Char :=
  let blanks := (line.reverse.takeWhile isBlank).length
  line.take (line.length - min blanks (line.length - width))

/-- The start of a text with room in so many cells. Where half of a character is left over a blank
stands for it. -/
def crop (width : Nat) : List Char → List Char
  | [] => []
  | c :: rest =>
    if Unicode.cells c ≤ width then c :: crop (width - Unicode.cells c) rest
    else if width = 0 then [] else [' ']

/-- A line that is not longer than its width. -/
def truncate (width : Nat) (overflow : Overflow) (line : List Char) : List Char :=
  if Unicode.cellLength line ≤ width then line
  else
    match overflow with
    | .fold => crop width line
    | .ellipsis => crop (width - 1) line ++ ['…']

def blanks (count : Nat) : List Char := List.replicate count ' '

/-- A line in its place. -/
def align (width : Nat) (overflow : Overflow) (alignment : Alignment) (line : List Char)
    : List Char :=
  match alignment with
  | .unset => truncate width overflow line
  | .left =>
    let line := truncate width overflow line
    line ++ blanks (width - Unicode.cellLength line)
  | .center =>
    let line := truncate width overflow (trimEnd line)
    let line := blanks ((width - Unicode.cellLength line) / 2) ++ line
    line ++ blanks (width - Unicode.cellLength line)

/-- The lines of a text that is laid out. -/
def layOut (width : Nat) (overflow : Overflow) (alignment : Alignment) (text : List Char)
    : List (List Char) :=
  (lines text).flatMap fun line =>
    (divide width overflow (expandTabs 0 line)).map fun part =>
      align width overflow alignment (cropEnd width part)

end Wrap

end FeatureFlags.Terminal
