import FeatureFlags.Unicode.Printable

/-! Quoted text, as messages show it. Text stands between single quotes, or between double ones when
it holds a single quote and no double one. The quote and the backslash are escaped, and so is every
character that is not printable.
-/

namespace FeatureFlags.Quoted

/-- The digits of a number to base sixteen, filled up with zeros on the left. -/
def hexadecimal (width n : Nat) : List Char :=
  let digits := Nat.toDigits 16 n
  List.replicate (width - digits.length) '0' ++ digits

/-- The quote to put around a text. -/
def quoteFor (text : List Char) : Char :=
  if text.contains '\'' && !text.contains '"' then '"' else '\''

/-- One character of a quoted text. -/
def escape (quote c : Char) : List Char :=
  if c = quote ∨ c = '\\' then ['\\', c]
  else if c = '\t' then ['\\', 't']
  else if c = '\n' then ['\\', 'n']
  else if c = '\r' then ['\\', 'r']
  else if ' ' ≤ c ∧ c.toNat < 127 then [c]
  else if c.toNat < 127 ∨ !Unicode.printable.contains c then
    if c.toNat < 0x100 then '\\' :: 'x' :: hexadecimal 2 c.toNat
    else if c.toNat < 0x10000 then '\\' :: 'u' :: hexadecimal 4 c.toNat
    else '\\' :: 'U' :: hexadecimal 8 c.toNat
  else [c]

/-- A text in quotes. -/
def quote (text : String) : String :=
  let chars := text.toList
  let mark := quoteFor chars
  String.ofList (mark :: chars.flatMap (escape mark) ++ [mark])

end FeatureFlags.Quoted
