import FeatureFlags.Proofs.Datum.Plain
import FeatureFlags.Proofs.Field.Checked
import FeatureFlags.Proofs.OrderedMap

/-! Where the parts of a record come from. What holds of all data within a record holds of the values from
which its fields are read.
-/

namespace FeatureFlags

/-- What holds of data holds of the data within it. -/
structure Datum.Inherited (P : Datum → Prop) : Prop where
  fields : ∀ {entries}, P (.record entries) → ∀ e ∈ entries, P e.2
  items : ∀ {x members}, P x → x.items? = some members → ∀ y ∈ members, P y

theorem Datum.plain_inherited : Inherited Plain where
  fields := Plain.fields
  items plain stored := by
    cases plain <;> simp only [items?, Option.some.injEq, reduceCtorEq] at stored
    next each => exact stored ▸ each

namespace Field

variable {α : Type} {P : Datum → Prop} {read : Datum → Checked α}
  {entries : List (String × Datum)} {name : String}

/-- A field that has to be there was read from one of the values. -/
theorem exists_of_required (each : ∀ e ∈ entries, P e.2) {a : α}
    (found : required entries name read = .ok a)
    : ∃ x, P x ∧ read x = .ok a := by
  obtain ⟨x, stored, same⟩ := required_eq_ok.mp found
  exact ⟨x, each _ (Datum.mem_of_lookup stored), same⟩

/-- A field has its default or was read from one of the values. -/
theorem exists_of_optional (each : ∀ e ∈ entries, P e.2) {default a : α}
    (found : optional entries name default read = .ok a)
    : a = default ∨ ∃ x, P x ∧ read x = .ok a := by
  rcases optional_eq_ok.mp found with ⟨-, rfl⟩ | ⟨x, stored, same⟩
  · exact Or.inl rfl
  · exact Or.inr ⟨x, each _ (Datum.mem_of_lookup stored), same⟩

/-- A field that may be null has a value only if it was read from one of the values. -/
theorem exists_of_nullable (each : ∀ e ∈ entries, P e.2) {a : Option α} {b : α}
    (found : optional entries name none (nullable read) = .ok a) (given : a = some b)
    : ∃ x, P x ∧ read x = .ok b := by
  subst given
  rcases exists_of_optional each found with missing | ⟨x, holds, same⟩
  · contradiction
  · rcases nullable_eq_ok.mp same with ⟨-, missing⟩ | ⟨-, c, stored, same⟩
    · contradiction
    · obtain rfl := Option.some.inj same
      exact ⟨x, holds, stored⟩

section

variable (inherited : Datum.Inherited P)
include inherited

/-- What is read from the items of a sequence was read from one of them. -/
theorem exists_of_tuple {x : Datum} (holds : P x) {l : List α} (found : tuple read x = .ok l)
    {a : α} (member : a ∈ l)
    : ∃ y, P y ∧ read y = .ok a := by
  obtain ⟨members, stored, same⟩ := tuple_eq_ok.mp found
  obtain ⟨y, given, readFrom⟩ := Checked.exists_of_map_eq same member
  exact ⟨y, inherited.items holds stored y given, readFrom⟩

theorem exists_of_list {x : Datum} (holds : P x) {l : List α} (found : list read x = .ok l)
    {a : α} (member : a ∈ l)
    : ∃ y, P y ∧ read y = .ok a := by
  obtain ⟨members, stored, same⟩ := list_eq_ok.mp found
  obtain ⟨y, given, readFrom⟩ := Checked.exists_of_map_eq same member
  exact ⟨y, inherited.items holds stored y given, readFrom⟩

theorem exists_of_optional_tuple (each : ∀ e ∈ entries, P e.2) {l : List α}
    (found : optional entries name [] (tuple read) = .ok l) {a : α} (member : a ∈ l)
    : ∃ x, P x ∧ read x = .ok a := by
  rcases exists_of_optional each found with rfl | ⟨x, holds, same⟩
  · simp at member
  · exact exists_of_tuple inherited holds same member

theorem exists_of_optional_list (each : ∀ e ∈ entries, P e.2) {l : List α}
    (found : optional entries name [] (list read) = .ok l) {a : α} (member : a ∈ l)
    : ∃ x, P x ∧ read x = .ok a := by
  rcases exists_of_optional each found with rfl | ⟨x, holds, same⟩
  · simp at member
  · exact exists_of_list inherited holds same member

/-- What a mapping holds was read from a value of the record. -/
theorem exists_of_mapping {x : Datum} (holds : P x) {m : OrderedMap String α}
    (found : mapping read x = .ok m) {e : String × α} (member : e ∈ m.entries)
    : ∃ y, P y ∧ read y = .ok e.2 := by
  cases x with
  | record fields =>
      obtain ⟨l, found, same⟩ := Checked.map_eq_ok.mp found
      have given : e ∈ l := OrderedMap.mem_of_mem_ofList (same ▸ member)
      have listed : (e.1, Checked.ok e.2) ∈ fields.map fun e => (e.1, read e.2) := by
        rw [Checked.entries_eq_ok.mp found]
        exact List.mem_map.mpr ⟨e, given, rfl⟩
      obtain ⟨field, stored, same⟩ := List.mem_map.mp listed
      exact ⟨field.2, inherited.fields holds field stored, (Prod.mk.inj same).2⟩
  | _ => simp [mapping, Checked.issue] at found

end

end Field

end FeatureFlags
