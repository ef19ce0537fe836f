import FeatureFlags.Failure
import FeatureFlags.Text.TextSet
import FeatureFlags.Datum.Literal

/-! Attribute values: a truth value, a number, a text or a set of texts. All numbers are doubles, so
that an integer and a double of the same value are the same attribute, and truth values are no
numbers. A value that is not a number is no attribute.
-/

namespace FeatureFlags

/-- A double other than the one that is not a number. -/
structure Number where
  value : Double
  notNaN : value.isNaN = false
deriving DecidableEq

namespace Number

def of? (x : Double) : Option Number := if h : x.isNaN = false then some ⟨x, h⟩ else none

def eq (x y : Number) : Bool := x.value.key == y.value.key

def lt (x y : Number) : Bool := x.value.key < y.value.key

def le (x y : Number) : Bool := x.value.key ≤ y.value.key

end Number

/-- The value of an attribute. -/
inductive Attribute where
  | bool (value : Bool)
  | number (value : Number)
  | text (value : String)
  | texts (value : TextSet)
deriving DecidableEq

namespace Attribute

/-- The texts of a list in which everything is text. -/
def textsOf? : List Datum → Option (List String)
  | [] => some []
  | .text s :: rest => (textsOf? rest).map (s :: ·)
  | _ :: _ => none

/-- The attribute that a piece of loose data stands for, if it stands for one. The conversion of
an integer that lies beyond every double fails. -/
def ofDatum? : Datum → Except Failure (Option Attribute)
  | .bool b => .ok (some (.bool b))
  | .int n =>
    match Double.ofInt? n with
    | some x => .ok ((Number.of? x).map .number)
    | none => .error .overflow
  | .double x => .ok ((Number.of? x).map .number)
  | .text s => .ok (some (.text s))
  | x => .ok (x.items?.bind fun items => (textsOf? items).map fun l => .texts (.ofList l))

/-- An attribute as loose data, sets as ascending lists. -/
def datum : Attribute → Datum
  | bool b => .bool b
  | number x => .double x.value
  | text s => .text s
  | texts set => .list (set.elements.map .text)

/-- An attribute as loose data that is kept in memory, with sets as sets. -/
def loose : Attribute → Datum
  | texts set => .set (set.elements.map .text)
  | a => a.datum

/-- The literal text of an attribute. -/
def literal : Attribute → String
  | texts set =>
    if set.isEmpty then "frozenset()"
    else
      "frozenset(\x7b" ++ ", ".intercalate (set.elements.map Quoted.quote) ++ "\x7d)"
  | a => a.datum.literal

/-- Equality of attributes of one kind; the two zeros are equal. -/
def same : Attribute → Attribute → Bool
  | bool a, bool b => a == b
  | number x, number y => x.eq y
  | text s, text t => s == t
  | texts s, texts t => s == t
  | _, _ => false

/-- Whether a number counts as a truth value. -/
def boolEqNumber (b : Bool) (x : Number) : Bool := Datum.intEqDouble (if b then 1 else 0) x.value

/-- Equality by which contexts are compared: as `same`, but truth values also equal the numbers one
and zero. -/
def alike : Attribute → Attribute → Bool
  | bool b, number x => boolEqNumber b x
  | number x, bool b => boolEqNumber b x
  | a, b => a.same b

/-- The fault that a name has a value which is no attribute. -/
def unsupported (name value : Datum) : Fault :=
  .of .invalidAttribute
    ("attribute " ++ name.literal ++ " has unsupported value " ++ value.literal)
    [("attribute", name), ("type", .text value.kindName)]

/-- The attribute of a name, or the fault that the name has an unsupported value. -/
def normalize (name value : Datum) : Except Failure Attribute := do
  match ← ofDatum? value with
  | some a => return a
  | none => throw (.quoting [name, value] (unsupported name value))

end Attribute

end FeatureFlags
