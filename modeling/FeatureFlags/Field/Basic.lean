import FeatureFlags.Calendar.Lenient
import FeatureFlags.Field.Number
import FeatureFlags.OrderedMap
import FeatureFlags.Text.TextSet

/-! Reading the fields of a record: texts, words of a list, moments, sequences and records within the
record. Fields that the record does not name are ignored.
-/

namespace FeatureFlags.Field

open Issue (Problem)

variable {α : Type}

/-! ### Values -/

/-- Reads a text. -/
def text : Datum → Checked String
  | .text s => .ok s
  | _ => .issue .notText

/-- Reads a text that is not empty. -/
def properText (x : Datum) : Checked String :=
  (text x).refuseIf fun s => if s.isEmpty then some .tooShort else none

/-- Reads one of some words, each of which stands for a value. -/
def word (words : List (String × α)) (x : Datum) : Checked α :=
  match x.text?.bind (words.lookup ·) with
  | some a => .ok a
  | none => .issue (.notMember (words.map Prod.fst))

/-- Reads a value that may be null. -/
def nullable (read : Datum → Checked α) : Datum → Checked (Option α)
  | .null => .ok none
  | x => (read x).map some

/-- Reads a tuple of values; lists and sets are accepted. -/
def tuple (read : Datum → Checked α) (x : Datum) : Checked (List α) :=
  match x.items? with
  | some items => Checked.items read 0 items
  | none => .issue .notTuple

/-- Reads a list of values; tuples and sets are accepted. -/
def list (read : Datum → Checked α) (x : Datum) : Checked (List α) :=
  match x.items? with
  | some items => Checked.items read 0 items
  | none => .issue .notList

/-- Reads a set of texts; lists and tuples are accepted. -/
def textSet (x : Datum) : Checked TextSet :=
  match x.items? with
  | some items => (Checked.items text 0 items).map TextSet.ofList
  | none => .issue .notSet

/-- Reads a mapping from names to values. -/
def mapping (read : Datum → Checked α) : Datum → Checked (OrderedMap String α)
  | .record entries => (Checked.entries read entries).map OrderedMap.ofList
  | _ => .issue .notMapping

/-- What is wrong with a value that is no moment. -/
def momentProblem : Moment.Refusal → Problem
  | .kind => .notMoment
  | .number detail => .unreadableMoment detail
  | .text detail => .unreadableMomentOrDate detail

/-- The moment that a value stands for. -/
def momentOf : Datum → Except Moment.Refusal Moment
  | .moment m => .ok m
  | .date d => .ok ⟨d, .midnight, none, none⟩
  | .int n =>
    if Moment.clampToWord n = n then Moment.ofCount n 0
    else
      match Double.ofInt? n with
      | some x => Moment.ofDouble x
      | none => .error .kind
  | .double x => Moment.ofDouble x
  | .text s => Moment.ofDocumentText s.toList
  | _ => .error .kind

/-- Reads a moment; one without an offset is taken as universal time. -/
def moment (x : Datum) : Checked AwareMoment :=
  match momentOf x with
  | .ok m => .ok m.assumeUtc
  | .error refusal => .issue (momentProblem refusal)

/-! ### Fields of a record -/

/-- Reads a field that has to be there. -/
def required (entries : List (String × Datum)) (name : String) (read : Datum → Checked α)
    : Checked α :=
  match entries.lookup name with
  | some x => (read x).under (.name name)
  | none => (Checked.issue .missing).under (.name name)

/-- Reads a field for which there is a default. -/
def optional (entries : List (String × Datum)) (name : String) (default : α)
    (read : Datum → Checked α) : Checked α :=
  match entries.lookup name with
  | some x => (read x).under (.name name)
  | none => .ok default

/-- Reads a record that describes a thing of some kind. -/
def record (kind : String) (read : List (String × Datum) → Checked α) : Datum → Checked α
  | .record entries => read entries
  | _ => .issue (.notRecord kind)

end FeatureFlags.Field
