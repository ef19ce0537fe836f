import FeatureFlags.Field.Basic
import FeatureFlags.Flag.Value

/-! Flags: a key and the values that a flag can have.
-/

namespace FeatureFlags

namespace Flag

/-- What sort of values a flag has. -/
inductive Kind where
  | boolean
  | text
deriving DecidableEq, Repr

/-- The word for a sort of values. -/
def Kind.word : Kind → String
  | boolean => "boolean"
  | text => "string"

/-- Keys are made of ASCII letters and digits, hyphens and underscores. -/
def isKeyCharacter (c : Char) : Bool := c.isAlphanum || c == '-' || c == '_'

/-- Whether a text can be the key of a flag. -/
def isKey (s : String) : Bool := !s.isEmpty && s.toList.all isKeyCharacter

end Flag

/-- A flag. -/
structure Flag where
  key : String
  kind : Flag.Kind
  /-- The texts that the flag can have; any text, if there are none. -/
  variants : List String
  name : String
  description : String
  tags : List String
deriving DecidableEq, Repr

namespace Flag

/-- Reads the variants of a flag. In a sequence each value counts once. -/
def readVariants (x : Datum) : Checked (List String) :=
  match x with
  | .list items | .tuple items =>
    match Datum.unhashableIn? items with
    | some kind => .failure (.unhashable kind)
    | none => Checked.items Field.text 0 (Datum.distinct items)
  | x => Field.tuple Field.text x

/-- The name under which a record gives the sort of values. -/
def kindField (entries : List (String × Datum)) : String :=
  if (entries.lookup "type").isSome then "type" else "flag_type"

/-- Reads the fields of a flag. -/
def ofEntries (entries : List (String × Datum)) : Checked Flag :=
  Flag.mk
    <$> Field.required entries "key" Field.text
    <*> Field.optional entries (kindField entries) .boolean
      (Field.word ([Kind.boolean, Kind.text].map fun k => (k.word, k)))
    <*> Field.optional entries "variants" [] readVariants
    <*> Field.optional entries "name" "" Field.text
    <*> Field.optional entries "description" "" Field.text
    <*> Field.optional entries "tags" [] (Field.tuple Field.text)

/-- Reads a flag. -/
def read : Datum → Checked Flag := Field.record "Flag" ofEntries

/-- The fields of a flag as loose data. -/
def toEntries (f : Flag) : List (String × Datum) :=
  [("key", .text f.key), ("type", .text f.kind.word), ("variants", .list (f.variants.map .text)),
    ("name", .text f.name), ("description", .text f.description),
    ("tags", .list (f.tags.map .text))]

/-- A flag as loose data. -/
def datum (f : Flag) : Datum := .record f.toEntries

/-- The value that stands for nothing. -/
def zeroValue (f : Flag) : FlagValue :=
  match f.kind with
  | .boolean => .bool false
  | .text => .text ""

/-- The value of a flag that is turned off: the first variant, if there are any. -/
def offValue (f : Flag) : FlagValue :=
  match f.kind, f.variants with
  | .text, first :: _ => .text first
  | _, _ => f.zeroValue

/-- Whether a value is one that the flag can have. -/
def accepts (f : Flag) (value : Datum) : Bool :=
  match f.kind, value with
  | .boolean, .bool _ => true
  | .text, .text s => f.variants.isEmpty || f.variants.contains s
  | _, _ => false

end Flag

end FeatureFlags
