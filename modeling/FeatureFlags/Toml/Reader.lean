import FeatureFlags.Text.Place
import FeatureFlags.Toml.Scalar
import FeatureFlags.Toml.Table

/-! Reading TOML text. The first fault is reported with its line and its column.
-/

namespace FeatureFlags.Toml

/-! ### Keys -/

def isBareKeyCharacter (c : Char) : Bool := c.isAlphanum || c = '-' || c = '_'

/-- Whether a key can begin with a character. -/
def beginsKey (c : Char) : Bool := isBareKeyCharacter c || c = '"' || c = '\''

/-- One name of a key. -/
def keyPart : Reader String := fun s =>
  match s with
  | '"' :: rest => quoted rest
  | '\'' :: rest => literal rest
  | _ =>
    let name := s.takeWhile isBareKeyCharacter
    if name.isEmpty then complain "Invalid initial character for a key part" s
    else .ok (String.ofList name, s.dropWhile isBareKeyCharacter)

/-- Names separated by dots, and the blanks after them. -/
def key : Nat → Reader Key
  | 0, s => complain "Invalid initial character for a key part" s
  | fuel + 1, s => do
    let (name, rest) ← keyPart s
    match skipBlanks rest with
    | '.' :: rest =>
      let (names, rest) ← key fuel (skipBlanks rest)
      return (name :: names, rest)
    | rest => return ([name], rest)

/-- A key, the sign of equality after it, and blanks. -/
def keyOfValue : Reader Key := fun s => do
  match ← key (s.length + 1) s with
  | (key, '=' :: rest) => return (key, skipBlanks rest)
  | (_, rest) => complain "Expected '=' after a key in a key/value pair" rest

/-! ### Values -/

/-- Drops white space, line feeds and comments. -/
def skipLines : Nat → List Char → Step (List Char)
  | 0, s => .ok s
  | fuel + 1, s => do
    let rest ← skipComment (s.dropWhile isBlankOrNewline)
    if rest.length = s.length then return s else skipLines fuel rest

/-- Does something for which so much of the text was read; what is wrong with it shows there. -/
def atRest {α : Type} (rest : List Char) (done : Except String α) : Step α :=
  done.mapError fun complaint => .malformed ⟨complaint, rest.length⟩

/-- Puts a value into an inline table; `frozen` are the keys of its arrays and tables. -/
def assignInline (key : Key) (value : Datum) (frozen : List Key) : Change := fun entries =>
  if frozen.any fun k => k.isPrefixOf key then .error (Draft.immutable key)
  else
    changeAt false
      (define key.name value ("Duplicate inline table key " ++ Quoted.quote key.name)) key.way
      entries

mutual

/-- A value. -/
def value : Nat → Reader Datum
  | 0, s => complain "Invalid value" s
  | fuel + 1, s =>
    match s with
    | '[' :: rest => do
      match ← skipLines (rest.length + 1) rest with
      | ']' :: rest => return (.list [], rest)
      | rest =>
        let (items, rest) ← items fuel rest
        return (.list items, rest)
    | '\x7b' :: rest =>
      match skipBlanks rest with
      | '\x7d' :: rest => .ok (.record [], rest)
      | rest => (inlineTable [] [] fuel rest).map fun r => (.record r.1, r.2)
    | _ => scalar s

/-- The items of an array and its closing bracket. -/
def items : Nat → Reader (List Datum)
  | 0, s => complain "Unclosed array" s
  | fuel + 1, s => do
    let (first, rest) ← value fuel s
    match ← skipLines (rest.length + 1) rest with
    | ']' :: rest => return ([first], rest)
    | ',' :: rest =>
      match ← skipLines (rest.length + 1) rest with
      | ']' :: rest => return ([first], rest)
      | rest =>
        let (others, rest) ← items fuel rest
        return (first :: others, rest)
    | rest => complain "Unclosed array" rest

/-- The entries of an inline table and its closing brace. -/
def inlineTable (entries : Entries) (frozen : List Key) : Nat → Reader Entries
  | 0, s => complain "Unclosed inline table" s
  | fuel + 1, s => do
    let (key, rest) ← keyOfValue s
    let (value, rest) ← value fuel rest
    let entries ← atRest rest (assignInline key value frozen entries)
    match skipBlanks rest with
    | '\x7d' :: rest => return (entries, rest)
    | ',' :: rest =>
      let frozen := if Draft.isNest value then key :: frozen else frozen
      inlineTable entries frozen fuel (skipBlanks rest)
    | rest => complain "Unclosed inline table" rest

end

/-! ### Statements -/

/-- A header that opens an array of tables, behind its opening brackets. -/
def arrayHeader (d : Draft) : Reader Draft := fun s => do
  let (key, rest) ← key (s.length + 1) (skipBlanks s)
  let d ← atRest rest (d.openArray key)
  match rest with
  | ']' :: ']' :: rest => return (d, rest)
  | _ => complain "Expected ']]' at the end of an array declaration" rest

/-- A header that opens a table, behind its opening bracket. -/
def tableHeader (d : Draft) : Reader Draft := fun s => do
  let (key, rest) ← key (s.length + 1) (skipBlanks s)
  let d ← atRest rest (d.openTable key)
  match rest with
  | ']' :: rest => return (d, rest)
  | _ => complain "Expected ']' at the end of a table declaration" rest

/-- A key and its value. -/
def assignment (d : Draft) : Reader Draft := fun s => do
  let (key, rest) ← keyOfValue s
  let (value, rest) ← value (2 * rest.length + 2) rest
  return (← atRest rest (d.assign key value), rest)

/-- A statement at the start of a text: a header or a value for a key. -/
def statement (d : Draft) : Reader Draft := fun s =>
  match s with
  | '[' :: '[' :: rest => arrayHeader d rest
  | '[' :: rest => tableHeader d rest
  -- The comment is dropped together with those behind statements.
  | '#' :: _ => .ok (d, s)
  | c :: _ => if beginsKey c then assignment d s else complain "Invalid statement" s
  | [] => .ok (d, [])

/-- Reads statements, one a line. -/
def statements (d : Draft) : Nat → List Char → Step Draft
  | 0, s => complain "Invalid statement" s
  | fuel + 1, s =>
    match skipBlanks s with
    | [] => .ok d
    | '\n' :: rest => statements d fuel rest
    | s => do
      let (d, rest) ← statement d s
      match ← skipComment (skipBlanks rest) with
      | [] => return d
      | '\n' :: rest => statements d fuel rest
      | rest => complain "Expected newline or end of document after a statement" rest

/-- Line ends of two characters count as line feeds. -/
def unifyLineEnds : List Char → List Char
  | '\r' :: '\n' :: rest => '\n' :: unifyLineEnds rest
  | c :: rest => c :: unifyLineEnds rest
  | [] => []

/-- What is said of a fault in a text. -/
def Stop.message (stop : Stop) (text : List Char) : String :=
  let before := text.take (text.length - stop.remaining)
  let place :=
    if stop.remaining = 0 then "end of document"
    else
      "line " ++ toString (Text.lineAfter before) ++ ", column " ++
        toString (Text.columnAfter before)
  stop.complaint ++ " (at " ++ place ++ ")"

/-- The table that a text stands for, or what is said of its first fault. -/
def read (s : List Char) : Except (Unread String) Entries :=
  let s := unifyLineEnds s
  match statements .empty (s.length + 1) s with
  | .ok d => .ok d.entries
  | .error unread => .error (unread.map fun stop => stop.message s)

end FeatureFlags.Toml
