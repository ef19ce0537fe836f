import FeatureFlags.Field.Basic

/-! When reading part of a document succeeds, and with what: a record when all its fields do, a
sequence when all its items do.
-/

namespace FeatureFlags

variable {α β : Type}

namespace Checked

theorem map_eq_ok {x : Checked α} {f : α → β} {b : β}
    : f <$> x = .ok b ↔ ∃ a, x = .ok a ∧ f a = b := by
  change x.map f = .ok b ↔ _
  cases x <;> simp [Checked.map]

theorem seq_eq_ok {f : Checked (α → β)} {x : Checked α} {b : β}
    : f <*> x = .ok b ↔ ∃ g, f = .ok g ∧ ∃ a, x = .ok a ∧ g a = b := by
  change Checked.seq f (fun _ => x) = .ok b ↔ _
  cases f <;> cases x <;> simp [Checked.seq, Checked.map]

theorem under_eq_ok {x : Checked α} {step : Issue.Step} {a : α}
    : x.under step = .ok a ↔ x = .ok a := by
  cases x <;> simp [under]

theorem toExcept_eq_ok {kind : String} {x : Checked α} {a : α}
    : x.toExcept kind = .ok a ↔ x = .ok a := by
  cases x <;> simp [toExcept]

theorem refuseIf_eq_ok {x : Checked α} {problem? : α → Option Issue.Problem} {a : α}
    : x.refuseIf problem? = .ok a ↔ x = .ok a ∧ problem? a = none := by
  cases x with
  | ok b =>
      cases refused : problem? b with
      | none =>
          simp only [refuseIf, refused, ok.injEq]
          constructor
          · rintro rfl
            exact ⟨rfl, refused⟩
          · exact And.left
      | some problem =>
          simp only [refuseIf, refused, issue, reduceCtorEq, ok.injEq, false_iff, not_and]
          rintro rfl
          simp [refused]
  | issues l => simp [refuseIf]
  | failure e => simp [refuseIf]

/-- Items are read when each of them is, by list induction. -/
theorem items_eq_ok {read : Datum → Checked α} {index : Nat} {members : List Datum} {l : List α}
    : items read index members = .ok l ↔ members.map read = l.map ok := by
  induction members generalizing index l with
  | nil => cases l <;> simp [items]
  | cons x rest ih =>
      simp only [items, seq_eq_ok, map_eq_ok, under_eq_ok, ih]
      cases l with
      | nil => simp
      | cons a more =>
          simp only [List.map_cons, List.cons.injEq]
          constructor
          · rintro ⟨_, ⟨b, first, rfl⟩, others, read, same⟩
            obtain ⟨rfl, rfl⟩ := List.cons.inj same
            exact ⟨first, read⟩
          · rintro ⟨first, others⟩
            exact ⟨_, ⟨a, first, rfl⟩, more, others, rfl⟩

/-- Values of a mapping are read when each of them is, by list induction. -/
theorem entries_eq_ok {read : Datum → Checked α} {fields : List (String × Datum)}
    {l : List (String × α)}
    : entries read fields = .ok l
      ↔ fields.map (fun e => (e.1, read e.2)) = l.map fun e => (e.1, .ok e.2) := by
  induction fields generalizing l with
  | nil => cases l <;> simp [entries]
  | cons field rest ih =>
      obtain ⟨name, x⟩ := field
      simp only [entries, seq_eq_ok, map_eq_ok, under_eq_ok, ih]
      cases l with
      | nil => simp
      | cons e more =>
          obtain ⟨n, a⟩ := e
          simp only [List.map_cons, List.cons.injEq, Prod.mk.injEq]
          constructor
          · rintro ⟨_, ⟨b, first, rfl⟩, others, read, same⟩
            obtain ⟨⟨rfl, rfl⟩, rfl⟩ : (name = n ∧ b = a) ∧ others = more := by simpa using same
            exact ⟨⟨rfl, first⟩, read⟩
          · rintro ⟨⟨rfl, first⟩, others⟩
            exact ⟨_, ⟨a, first, rfl⟩, more, others, rfl⟩

/-- What is read from items was read from one of them. -/
theorem exists_of_map_eq {read : Datum → Checked α} {members : List Datum} {l : List α}
    (same : members.map read = l.map ok) {a : α} (member : a ∈ l)
    : ∃ x ∈ members, read x = .ok a := by
  have listed : ok a ∈ members.map read := same ▸ List.mem_map_of_mem member
  simpa using listed

/-- Values whose written forms are read back are read back together. -/
theorem map_write {read : Datum → Checked α} {write : α → Datum} {l : List α}
    (each : ∀ a ∈ l, read (write a) = .ok a)
    : (l.map write).map read = l.map ok := by
  rw [List.map_map]
  exact List.map_congr_left each

end Checked

namespace Field

theorem properText_text_eq_ok {s t : String} : properText (.text s) = .ok t ↔ s ≠ "" ∧ t = s := by
  simp only [properText, Checked.refuseIf_eq_ok, text, Checked.ok.injEq]
  constructor
  · rintro ⟨rfl, proper⟩
    exact ⟨by simpa using proper, rfl⟩
  · rintro ⟨proper, rfl⟩
    exact ⟨rfl, by simpa using proper⟩

theorem required_eq_ok {entries : List (String × Datum)} {name : String} {read : Datum → Checked α}
    {a : α}
    : required entries name read = .ok a ↔ ∃ x, entries.lookup name = some x ∧ read x = .ok a := by
  unfold required
  cases entries.lookup name with
  | none => simp [Checked.under_eq_ok, Checked.issue]
  | some x => simp [Checked.under_eq_ok]

theorem optional_eq_ok {entries : List (String × Datum)} {name : String} {default : α}
    {read : Datum → Checked α} {a : α}
    : optional entries name default read = .ok a
      ↔ (entries.lookup name = none ∧ default = a)
        ∨ ∃ x, entries.lookup name = some x ∧ read x = .ok a := by
  unfold optional
  cases entries.lookup name with
  | none => simp
  | some x => simp [Checked.under_eq_ok]

theorem record_eq_ok {kind : String} {read : List (String × Datum) → Checked α} {x : Datum} {a : α}
    : record kind read x = .ok a ↔ ∃ entries, x = .record entries ∧ read entries = .ok a := by
  cases x <;> simp [record, Checked.issue]

theorem nullable_of_ne {read : Datum → Checked α} {x : Datum} (given : x ≠ .null)
    : nullable read x = some <$> read x := by
  cases x with
  | null => exact absurd rfl given
  | _ => rfl

theorem nullable_eq_ok {read : Datum → Checked α} {x : Datum} {a : Option α}
    : nullable read x = .ok a
      ↔ (x = .null ∧ a = none) ∨ (x ≠ .null ∧ ∃ b, read x = .ok b ∧ a = some b) := by
  by_cases null : x = .null
  · subst null
    simp [nullable, eq_comm]
  · rw [nullable_of_ne null, Checked.map_eq_ok]
    simp [null, eq_comm]

theorem tuple_eq_ok {read : Datum → Checked α} {x : Datum} {l : List α}
    : tuple read x = .ok l
      ↔ ∃ members, x.items? = some members ∧ members.map read = l.map Checked.ok := by
  unfold tuple
  cases x.items? with
  | none => simp [Checked.issue]
  | some members => simp [Checked.items_eq_ok]

theorem list_eq_ok {read : Datum → Checked α} {x : Datum} {l : List α}
    : list read x = .ok l
      ↔ ∃ members, x.items? = some members ∧ members.map read = l.map Checked.ok := by
  unfold list
  cases x.items? with
  | none => simp [Checked.issue]
  | some members => simp [Checked.items_eq_ok]

end Field

end FeatureFlags
