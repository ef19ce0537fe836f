import FeatureFlags.Json.Reader
import FeatureFlags.Proofs.Datum.Digits
import FeatureFlags.Proofs.Datum.Plain
import FeatureFlags.Proofs.Outcome

/-! What JSON text holds: plain data without days and times, in which no integer has too many digits.
-/

namespace FeatureFlags.Json

/-- Data that JSON text holds. -/
inductive Held : Datum → Prop where
  | null : Held .null
  | bool (b : Bool) : Held (.bool b)
  | int {n : Int} (short : (Datum.int n).isOverlong = false) : Held (.int n)
  | double (x : Double) : Held (.double x)
  | text (s : String) : Held (.text s)
  | list {members : List Datum} (each : ∀ x ∈ members, Held x) : Held (.list members)
  | record {fields : List (String × Datum)} (each : ∀ e ∈ fields, Held e.2)
    : Held (.record fields)

/-- The values of the fields can be held. -/
def HeldFields (fields : List (String × Datum)) : Prop := ∀ e ∈ fields, Held e.2

-----------------------------------------------------------------------------------------
-- What is read
-----------------------------------------------------------------------------------------

theorem isDigit_of_wholePart {s whole rest : List Char} (found : wholePart s = some (whole, rest))
    : ∀ c ∈ whole, c.isDigit = true := by
  unfold wholePart at found
  split at found
  · obtain ⟨rfl, -⟩ := Prod.mk.inj (Option.some.inj found)
    simp
  · split at found
    · obtain ⟨rfl, -⟩ := Prod.mk.inj (Option.some.inj found)
      exact List.all_eq_true.mp List.all_takeWhile
    · contradiction
  · contradiction

theorem held_of_unsigned? {negative : Bool} {s rest : List Char} {x : Datum}
    (read : unsigned? negative s = some (.ok (x, rest)))
    : Held x := by
  obtain ⟨⟨whole, after⟩, found, same⟩ := Option.map_eq_some_iff.mp read
  dsimp only at same
  split at same
  · obtain ⟨y, digits, same⟩ := Outcome.map_eq_ok.mp same
    obtain ⟨rfl, -⟩ := Prod.mk.inj same
    obtain ⟨n, rfl, short⟩ := Datum.exists_of_ofDigits (isDigit_of_wholePart found) digits
    exact .int short
  · obtain ⟨rfl, -⟩ := Prod.mk.inj (Except.ok.inj same)
    exact .double _

theorem held_of_scalar? {s rest : List Char} {x : Datum} (read : scalar? s = some (.ok (x, rest)))
    : Held x := by
  unfold scalar? at read
  split at read
  case h_7 => exact held_of_unsigned? read
  case h_8 => exact held_of_unsigned? read
  all_goals obtain ⟨rfl, -⟩ := Prod.mk.inj (Except.ok.inj (Option.some.inj read))
  case h_1 => exact .null
  case h_2 => exact .bool true
  case h_3 => exact .bool false
  case h_4 => exact .double .nan
  case h_5 => exact .double (.infinity false)
  case h_6 => exact .double (.infinity true)

/-- What the readers of values, items and entries leave can be held. -/
structure ReadsHeld (fuel : Nat) : Prop where
  value : ∀ s x rest, value fuel s = .ok (x, rest) → Held x
  items : ∀ s members rest, items fuel s = .ok (members, rest) → ∀ x ∈ members, Held x
  entries : ∀ s fields rest, entries fuel s = .ok (fields, rest) → HeldFields fields

theorem held_of_value {fuel : Nat} (inner : ReadsHeld fuel) {s : List Char} {x : Datum}
    {rest : List Char} (read : Json.value (fuel + 1) s = .ok (x, rest))
    : Held x := by
  unfold Json.value at read
  split at read
  case h_1 => contradiction
  case h_2 =>
    obtain ⟨⟨chars, left⟩, -, same⟩ := Outcome.bind_eq_ok.mp read
    obtain ⟨rfl, -⟩ := Prod.mk.inj (Outcome.pure_eq_ok.mp same)
    exact .text _
  case h_3 less _ same =>
    obtain rfl : fuel = less := Nat.succ.inj same
    split at read
    · obtain ⟨rfl, -⟩ := Prod.mk.inj (Except.ok.inj read)
      exact .list (by simp)
    · obtain ⟨⟨members, left⟩, found, same⟩ := Outcome.bind_eq_ok.mp read
      obtain ⟨rfl, -⟩ := Prod.mk.inj (Outcome.pure_eq_ok.mp same)
      exact .list (inner.items _ _ _ found)
  case h_4 less _ same =>
    obtain rfl : fuel = less := Nat.succ.inj same
    split at read
    · obtain ⟨rfl, -⟩ := Prod.mk.inj (Except.ok.inj read)
      exact .record (by simp)
    · obtain ⟨⟨fields, left⟩, found, same⟩ := Outcome.bind_eq_ok.mp read
      obtain ⟨rfl, -⟩ := Prod.mk.inj (Outcome.pure_eq_ok.mp same)
      exact .record (Datum.forall_distinctEntries (inner.entries _ _ _ found))
  case h_5 =>
    split at read
    · next found => exact held_of_scalar? (found.trans (congrArg some read))
    · contradiction

theorem held_of_items {fuel : Nat} (inner : ReadsHeld fuel) {s : List Char} {members : List Datum}
    {rest : List Char} (read : Json.items (fuel + 1) s = .ok (members, rest))
    : ∀ x ∈ members, Held x := by
  rw [Json.items] at read
  obtain ⟨⟨first, after⟩, found, read⟩ := Outcome.bind_eq_ok.mp read
  have held := inner.value _ _ _ found
  dsimp only at read
  split at read
  · obtain ⟨rfl, -⟩ := Prod.mk.inj (Outcome.pure_eq_ok.mp read)
    simpa using held
  · obtain ⟨⟨more, left⟩, others, same⟩ := Outcome.bind_eq_ok.mp read
    obtain ⟨rfl, -⟩ := Prod.mk.inj (Outcome.pure_eq_ok.mp same)
    intro x member
    rcases List.mem_cons.mp member with rfl | later
    · exact held
    · exact inner.items _ _ _ others x later
  · contradiction

theorem held_of_entries {fuel : Nat} (inner : ReadsHeld fuel) {s : List Char}
    {fields : List (String × Datum)} {rest : List Char}
    (read : Json.entries (fuel + 1) s = .ok (fields, rest))
    : HeldFields fields := by
  unfold Json.entries at read
  split at read
  case h_1 less _ same =>
    obtain rfl : fuel = less := Nat.succ.inj same
    obtain ⟨⟨name, afterName⟩, -, read⟩ := Outcome.bind_eq_ok.mp read
    dsimp only at read
    split at read
    · obtain ⟨⟨first, after⟩, found, read⟩ := Outcome.bind_eq_ok.mp read
      have held := inner.value _ _ _ found
      dsimp only at read
      split at read
      · obtain ⟨rfl, -⟩ := Prod.mk.inj (Outcome.pure_eq_ok.mp read)
        intro e member
        obtain rfl := List.mem_singleton.mp member
        exact held
      · obtain ⟨⟨more, left⟩, others, same⟩ := Outcome.bind_eq_ok.mp read
        obtain ⟨rfl, -⟩ := Prod.mk.inj (Outcome.pure_eq_ok.mp same)
        intro e member
        rcases List.mem_cons.mp member with rfl | later
        · exact held
        · exact inner.entries _ _ _ others e later
      · contradiction
    · contradiction
  case h_2 => contradiction

/-- The readers leave data that JSON text holds, by induction on the fuel. -/
theorem readsHeld (fuel : Nat) : ReadsHeld fuel := by
  induction fuel with
  | zero =>
      refine ⟨?_, ?_, ?_⟩
      · intro s x rest read
        simp [Json.value, stop] at read
      · intro s members rest read
        simp [Json.items, stop] at read
      · intro s fields rest read
        simp [Json.entries, stop] at read
  | succ fuel inner =>
      exact ⟨fun _ _ _ => held_of_value inner, fun _ _ _ => held_of_items inner,
        fun _ _ _ => held_of_entries inner⟩

theorem held_of_read {text : List Char} {x : Datum} (found : read text = .ok x) : Held x := by
  rw [read, Outcome.mapError_eq_ok] at found
  unfold document at found
  split at found
  · contradiction
  · rw [Outcome.bind_eq_ok] at found
    obtain ⟨⟨y, rest⟩, whole, ended⟩ := found
    have held := (readsHeld _).value _ _ _ whole
    dsimp only at ended
    split at ended
    · obtain rfl : y = x := Outcome.pure_eq_ok.mp ended
      exact held
    · contradiction

-----------------------------------------------------------------------------------------
-- What follows
-----------------------------------------------------------------------------------------

theorem Held.plain {x : Datum} (held : Held x) : x.Plain := by
  induction held with
  | null => exact .null
  | bool b => exact .bool b
  | int => exact .int _
  | double x => exact .double x
  | text s => exact .text s
  | list _ ih => exact .list ih
  | record _ ih => exact .record ih

/-- No integer that JSON text holds has too many digits, by induction over the data. -/
theorem Held.short {x : Datum} (held : Held x) : x.isOverlong = false := by
  induction held with
  | int short => exact short
  | list _ ih =>
      rw [← Bool.not_eq_true, Datum.isOverlong_list_iff]
      rintro ⟨x, member, long⟩
      rw [ih x member] at long
      contradiction
  | record _ ih =>
      rw [← Bool.not_eq_true, Datum.isOverlong_record_iff]
      rintro ⟨e, member, long⟩
      rw [ih e member] at long
      contradiction
  | _ => rfl

end FeatureFlags.Json
