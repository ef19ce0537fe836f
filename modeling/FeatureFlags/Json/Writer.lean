import FeatureFlags.Datum.Literal
import FeatureFlags.Failure

/-! Writing JSON text. Values that have no JSON form are written as their text in quotes; integers
with too many digits are not written at all.
-/

namespace FeatureFlags.Json

/-- Numbers are laid out as in literals; those without decimal form have names. -/
def numberStyle : Double.Style := ⟨-3, 16, "Infinity", "NaN"⟩

/-- A code unit of sixteen bits as an escape. -/
def codeEscape (n : Nat) : List Char := '\\' :: 'u' :: Quoted.hexadecimal 4 n

/-- One character of a text. With `ascii`, characters outside ASCII are written as escapes, those
of the supplementary planes as a pair of surrogates. -/
def escape (ascii : Bool) (c : Char) : List Char :=
  if c = '"' then ['\\', '"']
  else if c = '\\' then ['\\', '\\']
  else if c = '\n' then ['\\', 'n']
  else if c = '\r' then ['\\', 'r']
  else if c = '\t' then ['\\', 't']
  else if c = '\x08' then ['\\', 'b']
  else if c = '\x0c' then ['\\', 'f']
  else if c.toNat < 0x20 then codeEscape c.toNat
  else if c.toNat < 0x7F ∨ !ascii then [c]
  else if c.toNat < 0x10000 then codeEscape c.toNat
  else
    let n := c.toNat - 0x10000
    codeEscape (0xD800 + n / 0x400) ++ codeEscape (0xDC00 + n % 0x400)

/-- A text in quotes. -/
def quoteChars (ascii : Bool) (text : List Char) : List Char :=
  '"' :: text.flatMap (escape ascii) ++ ['"']

/-- How values are laid out. -/
structure Layout where
  /-- Whether only ASCII characters may be written. -/
  ascii : Bool
  /-- The width of a level of indentation; without one everything is on a line. -/
  indent : Option Nat

/-- Everything on one line, in ASCII. -/
def compact : Layout := ⟨true, none⟩

/-- The start of a new line at a level of nesting, or nothing. -/
def Layout.newline (layout : Layout) (level : Nat) : List Char :=
  match layout.indent with
  | none => []
  | some width => '\n' :: List.replicate (width * level) ' '

/-- What stands between two items. -/
def Layout.comma (layout : Layout) (level : Nat) : List Char :=
  match layout.indent with
  | none => [',', ' ']
  | some _ => ',' :: layout.newline level

/-- Items between brackets. -/
def enclose (layout : Layout) (level : Nat) (opening closing : Char) (parts : List (List Char))
    : List Char :=
  if parts.isEmpty then [opening, closing]
  else
    opening :: layout.newline (level + 1) ++ (layout.comma (level + 1)).intercalate parts ++
      layout.newline level ++ [closing]

mutual

/-- The text of a value at a level of nesting. -/
def writeChars (layout : Layout) (level : Nat) : Datum → List Char
  | .null => "null".toList
  | .bool b => (if b then "true" else "false").toList
  | .int n => (toString n).toList
  | .double x => (numberStyle.text x).toList
  | .text s => quoteChars layout.ascii s.toList
  | .list items => enclose layout level '[' ']' (writeItems layout (level + 1) items)
  | .tuple items => enclose layout level '[' ']' (writeItems layout (level + 1) items)
  | .record entries =>
    enclose layout level '\x7b' '\x7d' (writeEntries layout (level + 1) entries)
  | x => quoteChars layout.ascii x.display.toList

/-- The texts of the items of a list. -/
def writeItems (layout : Layout) (level : Nat) : List Datum → List (List Char)
  | [] => []
  | x :: rest => writeChars layout level x :: writeItems layout level rest

/-- The texts of the entries of a record. -/
def writeEntries (layout : Layout) (level : Nat) : List (String × Datum) → List (List Char)
  | [] => []
  | (name, x) :: rest =>
    (quoteChars layout.ascii name.toList ++ ':' :: ' ' :: writeChars layout level x) ::
      writeEntries layout level rest

end

/-- The text of a value, if all integers in it can be written out. -/
def write (layout : Layout) (x : Datum) : Except Failure String :=
  if x.isOverlong then .error .tooManyDigits else .ok (String.ofList (writeChars layout 0 x))

end FeatureFlags.Json
