import FeatureFlags.Field.Basic
import FeatureFlags.Percentage
import Mathlib.Tactic.SplitIfs

/-! Where reading a document fails. Issues with fields are collected and reported together, but some
values cannot even be looked at, and the first one of them ends the reading. The failure of a reader
is found along the ways into the document that the reader goes, and most readers never fail.
-/

namespace FeatureFlags

-----------------------------------------------------------------------------------------
-- Ways into a document
-----------------------------------------------------------------------------------------

namespace Datum

/-- A step from a value to values within it. -/
inductive Step where
  | field (name : String)
  /-- To each item of a sequence. -/
  | items
  /-- To each value of a mapping. -/
  | values

/-- The values to which a step leads. -/
def within : Step → Datum → List Datum
  | .field name, x => (x.get? name).toList
  | .items, x => x.items?.getD []
  | .values, .record entries => entries.map Prod.snd
  | .values, _ => []

/-- The second value is reached from the first one by a path of steps. -/
def At : List Step → Datum → Datum → Prop
  | [], x, y => x = y
  | step :: path, x, y => ∃ z ∈ x.within step, At path z y

/-- The first answer that a search gives at an end of a path. -/
def first? {β : Type} (search : Datum → Option β) : List Step → Datum → Option β
  | [], x => search x
  | step :: path, x => (x.within step).findSome? (first? search path)

variable {β : Type} {search : Datum → Option β}

end Datum

-----------------------------------------------------------------------------------------
-- Failures of readers
-----------------------------------------------------------------------------------------

variable {α β : Type}

namespace Checked

/-- The failure that has ended the reading, if one has. -/
def failure? : Checked α → Option Failure
  | .failure e => some e
  | _ => none

@[simp] theorem failure?_ok (a : α) : (ok a).failure? = none := rfl

@[simp] theorem failure?_issue (problem : Issue.Problem) : (issue problem : Checked α).failure? = none :=
  rfl

@[simp] theorem failure?_map (f : α → β) (x : Checked α) : (f <$> x).failure? = x.failure? := by
  change (x.map f).failure? = _
  cases x <;> rfl

@[simp] theorem failure?_mapped (f : α → β) (x : Checked α) : (x.map f).failure? = x.failure? := by
  cases x <;> rfl

/-- Of two parts the first one to fail ends the reading. -/
@[simp] theorem failure?_seq (f : Checked (α → β)) (x : Checked α)
    : (f <*> x).failure? = f.failure?.or x.failure? := by
  change (Checked.seq f fun _ => x).failure? = _
  cases f <;> cases x <;> rfl

@[simp] theorem failure?_under (step : Issue.Step) (x : Checked α)
    : (x.under step).failure? = x.failure? := by
  cases x <;> rfl

@[simp] theorem failure?_refuseIf (problem? : α → Option Issue.Problem) (x : Checked α)
    : (x.refuseIf problem?).failure? = x.failure? := by
  cases x with
  | ok a =>
      simp only [refuseIf]
      cases problem? a <;> rfl
  | issues l => rfl
  | failure e => rfl

/-- The first item that fails ends the reading, by list induction. -/
@[simp] theorem failure?_items (read : Datum → Checked α) (index : Nat) (members : List Datum)
    : (items read index members).failure? = members.findSome? fun x => (read x).failure? := by
  induction members generalizing index with
  | nil => rfl
  | cons x rest ih =>
      rw [items, failure?_seq, failure?_map, failure?_under, ih, List.findSome?_cons]
      cases (read x).failure? <;> rfl

/-- The first value that fails ends the reading, by list induction. -/
@[simp] theorem failure?_entries (read : Datum → Checked α) (fields : List (String × Datum))
    : (entries read fields).failure? = fields.findSome? fun e => (read e.2).failure? := by
  induction fields with
  | nil => rfl
  | cons e rest ih =>
      rw [entries, failure?_seq, failure?_map, failure?_under, ih, List.findSome?_cons]
      cases (read e.2).failure? <;> rfl

end Checked

namespace Field

-- Values that have no parts can always be looked at.

@[simp] theorem failure?_text (x : Datum) : (text x).failure? = none := by
  cases x <;> rfl

@[simp] theorem failure?_properText (x : Datum) : (properText x).failure? = none := by
  rw [properText, Checked.failure?_refuseIf, failure?_text]

@[simp] theorem failure?_word (words : List (String × α)) (x : Datum)
    : (word words x).failure? = none := by
  unfold word
  split <;> rfl

@[simp] theorem failure?_integer (x : Datum) : (integer x).failure? = none := by
  cases x with
  | double y =>
      simp only [integer, doubleInteger]
      split_ifs <;> rfl
  | text s =>
      simp only [integer, textInteger]
      split_ifs
      · rfl
      · split <;> rfl
  | _ => rfl

@[simp] theorem failure?_boolean (x : Datum) : (boolean x).failure? = none := by
  have ofInt (n : Int) : (intBool n).failure? = none := by
    unfold intBool
    split_ifs <;> rfl
  cases x with
  | int n => exact ofInt n
  | double y =>
      simp only [boolean]
      split
      · exact ofInt _
      · rfl
  | text s =>
      simp only [boolean, textBool]
      split_ifs <;> rfl
  | _ => rfl

@[simp] theorem failure?_moment (x : Datum) : (moment x).failure? = none := by
  unfold moment
  split <;> rfl

@[simp] theorem failure?_percentage (x : Datum) : (Percentage.read x).failure? = none := by
  simp [Percentage.read]

variable {read : Datum → Checked α}

/-- A value that may be null fails as it does otherwise. -/
theorem failure?_nullable (null : (read .null).failure? = none) (x : Datum)
    : (nullable read x).failure? = (read x).failure? := by
  cases x with
  | null => exact null.symm
  | _ => exact Checked.failure?_mapped ..

-- Fields and sequences of values that never fail.

@[simp] theorem failure?_nullable_of_silent (silent : ∀ x, (read x).failure? = none) (x : Datum)
    : (nullable read x).failure? = none := by
  rw [failure?_nullable (silent .null), silent]

@[simp] theorem failure?_tuple_of_silent (silent : ∀ x, (read x).failure? = none) (x : Datum)
    : (tuple read x).failure? = none := by
  unfold tuple
  cases x.items? <;> simp [silent]

@[simp] theorem failure?_textSet (x : Datum) : (textSet x).failure? = none := by
  unfold textSet
  cases x.items? <;> simp

@[simp] theorem failure?_required_of_silent (silent : ∀ x, (read x).failure? = none)
    (entries : List (String × Datum)) (name : String)
    : (required entries name read).failure? = none := by
  unfold required
  cases entries.lookup name <;> simp [silent]

@[simp] theorem failure?_optional_of_silent (silent : ∀ x, (read x).failure? = none)
    (entries : List (String × Datum)) (name : String) (default : α)
    : (optional entries name default read).failure? = none := by
  unfold optional
  cases entries.lookup name <;> simp [silent]

-- Fields, sequences and mappings of values that fail along some path.

variable {search : Datum → Option Failure} {path : List Datum.Step}

theorem failure?_optional (along : ∀ x, (read x).failure? = Datum.first? search path x)
    (entries : List (String × Datum)) (name : String) (default : α)
    : (optional entries name default read).failure?
      = Datum.first? search (.field name :: path) (.record entries) := by
  unfold optional
  rw [Datum.first?, Datum.within, Datum.get?]
  cases entries.lookup name with
  | none => rfl
  | some x => simp [along]

theorem failure?_tuple (along : ∀ x, (read x).failure? = Datum.first? search path x) (x : Datum)
    : (tuple read x).failure? = Datum.first? search (.items :: path) x := by
  unfold tuple
  rw [Datum.first?, Datum.within]
  cases x.items? with
  | none => rfl
  | some members => simp [along]

theorem failure?_list (along : ∀ x, (read x).failure? = Datum.first? search path x) (x : Datum)
    : (list read x).failure? = Datum.first? search (.items :: path) x := by
  unfold list
  rw [Datum.first?, Datum.within]
  cases x.items? with
  | none => rfl
  | some members => simp [along]

theorem failure?_mapping (along : ∀ x, (read x).failure? = Datum.first? search path x) (x : Datum)
    : (mapping read x).failure? = Datum.first? search (.values :: path) x := by
  cases x with
  | record entries =>
      simp [mapping, Datum.first?, Datum.within, along, List.findSome?_map, Function.comp_def]
  | _ => rfl

end Field

end FeatureFlags
