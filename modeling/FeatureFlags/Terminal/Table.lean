import FeatureFlags.Number.Double
import FeatureFlags.Terminal.Markup
import FeatureFlags.Terminal.Wrap

/-! Tables with lines between their columns, a heavy frame around the head and a title above. Columns
are as wide as their widest text. When a table is wider than the terminal its widest columns become
narrower, all of them alike, and texts are wrapped in their cells.
-/

namespace FeatureFlags.Terminal

/-- A table; titles and cells may have markup. -/
structure Table where
  title : String
  heads : List String
  rows : List (List String)

namespace Table

/-- The cells of a line on both sides of a text. -/
def padding : Nat := 2

/-- The number of cells that a text needs. -/
def needed (text : List Char) : Nat :=
  ((Wrap.lines text).map Unicode.cellLength).foldl max 0

/-- Divides `total` among the marked ones of `count` columns, at most `most` for each. The last of
them take what rounding left over. -/
def shares (most : Nat) : Nat → Nat → List Bool → List Nat
  | _, _, [] => []
  | total, count, marked :: rest =>
    if marked ∧ 0 < count then
      let share := min most (roundDiv total count)
      share :: shares most (total - share) (count - 1) rest
    else 0 :: shares most total count rest

/-- Makes the widest columns narrower, not below the next ones, until the columns take up no more
than `limit` cells. -/
def narrow (limit : Nat) : Nat → List Nat → List Nat
  | 0, widths => widths
  | rounds + 1, widths =>
    let excess := widths.foldl (· + ·) 0 - limit
    let greatest := widths.foldl max 0
    let next := (widths.filter (· ≠ greatest)).foldl max 0
    if excess = 0 then widths
    else
      let widest := widths.map (· == greatest)
      -- The widest columns lose what is too much, but do not get narrower than the next ones.
      let cuts := shares (min excess (greatest - next)) excess (widest.count true) widest
      narrow limit rounds (widths.zipWith (· - ·) cuts)

/-- The widths of columns. -/
def widths (limit : Nat) (columns : List (List (List Char))) : List Nat :=
  narrow limit columns.length
    (columns.map fun cells => min limit (padding + (cells.map needed).foldl max 0))

/-- The lines of a cell. -/
def cellLines (width : Nat) (text : List Char) : List (List Char) :=
  (Wrap.layOut (width - padding) .ellipsis .left text).map fun line => ' ' :: line ++ [' ']

/-- A line of cells between bars. -/
def barLine (bar : Char) (cells : List (List Char)) : List Char :=
  bar :: cells.flatMap fun cell => cell ++ [bar]

/-- The lines of a row. -/
def rowLines (bar : Char) (widths : List Nat) (texts : List (List Char)) : List (List Char) :=
  let cells := (widths.zip texts).map fun e => (e.1, cellLines e.1 e.2)
  let height := (cells.map fun c => c.2.length).foldl max 0
  (List.range height).map fun i =>
    barLine bar (cells.map fun c => c.2.getD i (Wrap.blanks c.1))

/-- A line of the frame. -/
def frameLine (start line crossing stop : Char) (widths : List Nat) : List Char :=
  start :: [crossing].intercalate (widths.map fun w => List.replicate w line) ++ [stop]

/-- The lines of a table. -/
def lines (limit : Nat) (t : Table) : Except Failure (List (List Char)) := do
  let heads ← t.heads.mapM Markup.render
  let columns ← (List.range heads.length).mapM fun i => t.rows.mapM fun row =>
    Markup.render (row.getD i "")
  let title ← Markup.render t.title
  let frame := heads.length + 1
  let widths := widths (limit - frame) (heads.zipWith (· :: ·) columns)
  let rows := (List.range t.rows.length).map fun j => columns.map fun column => column.getD j []
  return Wrap.layOut (widths.foldl (· + ·) 0 + frame) .fold .center title ++
    [frameLine '┏' '━' '┳' '┓' widths] ++ rowLines '┃' widths heads ++
    [frameLine '┡' '━' '╇' '┩' widths] ++ rows.flatMap (rowLines '│' widths) ++
    [frameLine '└' '─' '┴' '┘' widths]

end Table

end FeatureFlags.Terminal
