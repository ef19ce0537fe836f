import FeatureFlags.Datum.Basic
import FeatureFlags.Proofs.Calendar.DocumentText

/-! Data as texts of documents hold it: records, lists and single values, without tuples and sets,
and moments only with offsets that documents can hold.
-/

namespace FeatureFlags

namespace Datum

/-- Data that texts of documents hold. -/
inductive Plain : Datum → Prop where
  | null : Plain .null
  | bool (b : Bool) : Plain (.bool b)
  | int (n : Int) : Plain (.int n)
  | double (x : Double) : Plain (.double x)
  | text (s : String) : Plain (.text s)
  | list {members : List Datum} (each : ∀ x ∈ members, Plain x) : Plain (.list members)
  | record {fields : List (String × Datum)} (each : ∀ e ∈ fields, Plain e.2)
    : Plain (.record fields)
  | moment {m : Moment} (documented : m.Documented) : Plain (.moment m)
  | date (d : Date) : Plain (.date d)
  | time (t : TimeOfDay) : Plain (.time t)

/-- The values of the fields are plain. -/
def PlainFields (fields : List (String × Datum)) : Prop := ∀ e ∈ fields, e.2.Plain

theorem plainFields_nil : PlainFields [] := by
  intro e member
  simp at member

theorem Plain.fields {fields : List (String × Datum)} (plain : Plain (.record fields))
    : PlainFields fields := by
  cases plain with
  | record each => exact each

theorem Plain.members {members : List Datum} (plain : Plain (.list members))
    : ∀ x ∈ members, Plain x := by
  cases plain with
  | list each => exact each

theorem mem_of_lookup {fields : List (String × Datum)} {name : String} {x : Datum}
    (found : fields.lookup name = some x)
    : (name, x) ∈ fields := by
  obtain ⟨before, after, rfl, -⟩ := List.lookup_eq_some_iff.mp found
  exact List.mem_append_right before List.mem_cons_self

theorem PlainFields.lookup {fields : List (String × Datum)} (plain : PlainFields fields)
    {name : String} {x : Datum} (found : fields.lookup name = some x)
    : x.Plain :=
  plain _ (mem_of_lookup found)

/-- What holds of a value and of all values of a record still does with the value in it, by list
induction.
-/
theorem forall_putEntry {P : Datum → Prop} {fields : List (String × Datum)}
    (each : ∀ e ∈ fields, P e.2) (name : String) {x : Datum} (added : P x)
    : ∀ e ∈ putEntry name x fields, P e.2 := by
  induction fields with
  | nil =>
      intro e member
      obtain rfl : e = (name, x) := by simpa [putEntry] using member
      exact added
  | cons field rest ih =>
      obtain ⟨n, v⟩ := field
      obtain ⟨first, others⟩ := List.forall_mem_cons.mp each
      unfold putEntry
      split
      · exact List.forall_mem_cons.mpr ⟨added, others⟩
      · exact List.forall_mem_cons.mpr ⟨first, ih others⟩

/-- What holds of all values holds of the last ones of each name, by list induction. -/
theorem forall_distinctEntries {P : Datum → Prop} {fields : List (String × Datum)}
    (each : ∀ e ∈ fields, P e.2)
    : ∀ e ∈ distinctEntries fields, P e.2 := by
  have collected (all : List (String × Datum)) (allHold : ∀ e ∈ all, P e.2)
      : ∀ e ∈ fields.foldl (fun all e => putEntry e.1 e.2 all) all, P e.2 := by
    induction fields generalizing all with
    | nil => exact allHold
    | cons field rest ih =>
        obtain ⟨first, others⟩ := List.forall_mem_cons.mp each
        exact ih others _ (forall_putEntry allHold field.1 first)
  exact collected [] (by simp)

theorem PlainFields.put {fields : List (String × Datum)} (plain : PlainFields fields)
    (name : String) {x : Datum} (added : x.Plain)
    : PlainFields (putEntry name x fields) :=
  forall_putEntry plain name added

theorem PlainFields.append {fields : List (String × Datum)} (plain : PlainFields fields)
    (name : String) {x : Datum} (added : x.Plain)
    : PlainFields (fields ++ [(name, x)]) := by
  intro e member
  rcases List.mem_append.mp member with before | last
  · exact plain e before
  · obtain rfl : e = (name, x) := by simpa using last
    exact added

end Datum

end FeatureFlags
