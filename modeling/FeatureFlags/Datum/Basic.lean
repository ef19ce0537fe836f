import FeatureFlags.Number.Double
import FeatureFlags.Calendar.Moment

/-! Loose data, as documents, request attributes and fallbacks bring it in. It is what readers
produce and writers print; everything inside the library has a type of its own.
-/

namespace FeatureFlags

/-- A value of loose data. -/
inductive Datum where
  | null
  | bool (value : Bool)
  | int (value : Int)
  | double (value : Double)
  | text (value : String)
  | list (items : List Datum)
  | tuple (items : List Datum)
  | set (items : List Datum)
  /-- Named values in the order in which the names first came. -/
  | record (entries : List (String × Datum))
  | moment (value : Moment)
  | date (value : Date)
  | time (value : TimeOfDay)

namespace Datum

instance : Inhabited Datum := ⟨null⟩

/-- The word by which messages call the kind of a value. -/
def kindName : Datum → String
  | null => "NoneType"
  | bool _ => "bool"
  | int _ => "int"
  | double _ => "float"
  | text _ => "str"
  | list _ => "list"
  | tuple _ => "tuple"
  | set _ => "set"
  | record _ => "dict"
  | moment _ => "datetime"
  | date _ => "date"
  | time _ => "time"

/-- The word for the kind of a value, with the family of kinds to which days and times belong. -/
def fullKindName : Datum → String
  | moment _ => "datetime.datetime"
  | date _ => "datetime.date"
  | time _ => "datetime.time"
  | x => x.kindName

/-- The items of a list, a tuple or a set. -/
def items? : Datum → Option (List Datum)
  | list items => some items
  | tuple items => some items
  | set items => some items
  | _ => none

/-- Whether a value is the one that stands for nothing. -/
def isNull : Datum → Bool
  | null => true
  | _ => false

def isBool : Datum → Bool
  | bool _ => true
  | _ => false

def isText : Datum → Bool
  | text _ => true
  | _ => false

/-- Whether a value counts as true: everything except nothing, zero and what is empty. -/
def isTrue : Datum → Bool
  | null => false
  | bool b => b
  | int n => n != 0
  | double x => !x.isZero
  | text s => !s.isEmpty
  | list items | tuple items | set items => !items.isEmpty
  | record entries => !entries.isEmpty
  | moment _ | date _ | time _ => true

def text? : Datum → Option String
  | text s => some s
  | _ => none

/-- Gives a name a value among the entries of a record. -/
def putEntry (name : String) (value : Datum) : List (String × Datum) → List (String × Datum)
  | [] => [(name, value)]
  | (n, v) :: rest => if n = name then (n, value) :: rest else (n, v) :: putEntry name value rest

/-- The entries of a record in which later values replace earlier ones of the same name. -/
def distinctEntries (entries : List (String × Datum)) : List (String × Datum) :=
  entries.foldl (fun all e => putEntry e.1 e.2 all) []

/-- The value of a name in a record. -/
def get? (name : String) : Datum → Option Datum
  | record entries => entries.lookup name
  | _ => none

/-- The value of a number for comparisons between integers and doubles; truth values count as
one and zero. -/
def number? : Datum → Option (Int ⊕ Double)
  | bool b => some (.inl (if b then 1 else 0))
  | int n => some (.inl n)
  | double x => some (.inr x)
  | _ => none

/-- Whether an integer and a double have the same value. -/
def intEqDouble (n : Int) (x : Double) : Bool :=
  x.isFinite && x.isIntegral &&
    (if x.negative then -(x.numerator / x.denominator : Int) else x.numerator / x.denominator) == n

def sameNumber : Int ⊕ Double → Int ⊕ Double → Bool
  | .inl m, .inl n => m == n
  | .inl m, .inr y => intEqDouble m y
  | .inr x, .inl n => intEqDouble n x
  | .inr x, .inr y => x.eq y

mutual

/-- Whether two values count as the same key or member: numbers by value whatever their kind,
everything else by kind and content. -/
def sameKey : Datum → Datum → Bool
  | null, null => true
  | text s, text t => s == t
  | tuple xs, tuple ys => sameKeys xs ys
  | moment a, moment b => a.same b
  | date a, date b => a == b
  | time a, time b => a == b
  | x, y =>
    match x.number?, y.number? with
    | some a, some b => sameNumber a b
    | _, _ => false

def sameKeys : List Datum → List Datum → Bool
  | [], [] => true
  | x :: xs, y :: ys => sameKey x y && sameKeys xs ys
  | _, _ => false

end

/-- The values of a list without those that count as the same key as an earlier one. -/
def distinct (items : List Datum) : List Datum :=
  items.foldl (fun all x => if all.any (sameKey x) then all else all ++ [x]) []

mutual

/-- The kind of a value that cannot be a key or a member, if there is one within the value. -/
def unhashable? : Datum → Option String
  | tuple items => unhashableIn? items
  | list _ => some "list"
  | set _ => some "set"
  | record _ => some "dict"
  | _ => none

def unhashableIn? : List Datum → Option String
  | [] => none
  | x :: rest => (unhashable? x).or (unhashableIn? rest)

end

end Datum

end FeatureFlags
