import FeatureFlags.OrderedMap
import Mathlib.Data.List.Induction
import Mathlib.Data.List.Perm.Subperm

/-! Laws of maps that remember the order of their keys: lookup is membership among the entries, a
new key goes to the end, and the order of the entries does not matter for lookups. Putting maps on
top of each other is associative, and the empty map is its unit.
-/

namespace FeatureFlags.OrderedMap

variable {κ α : Type}

theorem ext_entries {m other : OrderedMap κ α} (same : m.entries = other.entries) : m = other := by
  cases m
  cases other
  congr

/-- Of two maps of the same size, each has the keys of the other as soon as one of them does. -/
theorem mem_keys_of_subset {β : Type} {m : OrderedMap κ α} {other : OrderedMap κ β}
    (sizes : m.size = other.size) (subset : m.keys ⊆ other.keys) {key : κ} (member : key ∈ other.keys)
    : key ∈ m.keys := by
  have enough : other.keys.length ≤ m.keys.length := by
    simp only [keys, List.length_map]
    exact Nat.le_of_eq sizes.symm
  exact ((List.subperm_of_subset m.nodup subset).perm_of_length_le enough).mem_iff.mpr member

variable [DecidableEq κ]

-----------------------------------------------------------------------------------------
-- Lists of entries with distinct keys
-----------------------------------------------------------------------------------------

/-- Among entries with distinct keys, lookup finds exactly the entry of the key, by list
induction.
-/
theorem lookup_eq_some_iff {l : List (κ × α)} (distinct : (l.map Prod.fst).Nodup) {key : κ} {a : α}
    : l.lookup key = some a ↔ (key, a) ∈ l := by
  induction l with
  | nil => simp
  | cons entry rest ih =>
      obtain ⟨k, b⟩ := entry
      obtain ⟨fresh, distinctRest⟩ := List.nodup_cons.mp distinct
      by_cases same : key = k
      · subst same
        have absent : (key, a) ∉ rest :=
          fun member => fresh (List.mem_map.mpr ⟨(key, a), member, rfl⟩)
        simp [absent, eq_comm]
      · have different : (key == k) = false := by simpa using same
        simp [List.lookup_cons, different, same, ih distinctRest]

/-- A key that is not there yet goes to the end, by list induction. -/
theorem put_of_not_mem {l : List (κ × α)} {key : κ} (fresh : key ∉ l.map Prod.fst) (a : α)
    : put key a l = l ++ [(key, a)] := by
  induction l with
  | nil => rfl
  | cons entry rest ih =>
      obtain ⟨k, b⟩ := entry
      simp only [List.map_cons, List.mem_cons, not_or] at fresh
      have different : ¬ k = key := fun same => fresh.1 same.symm
      simp [put, different, ih fresh.2]

-----------------------------------------------------------------------------------------
-- Lookups
-----------------------------------------------------------------------------------------

theorem get?_eq_some_iff {m : OrderedMap κ α} {key : κ} {a : α}
    : m.get? key = some a ↔ (key, a) ∈ m.entries :=
  lookup_eq_some_iff m.nodup

theorem contains_iff {m : OrderedMap κ α} {key : κ}
    : m.contains key = true ↔ key ∈ m.entries.map Prod.fst := by
  simp only [contains, Option.isSome_iff_exists, get?_eq_some_iff, List.mem_map]
  constructor
  · rintro ⟨a, member⟩
    exact ⟨(key, a), member, rfl⟩
  · rintro ⟨⟨k, a⟩, member, rfl⟩
    exact ⟨a, member⟩

/-- Maps with the same entries in whatever order answer every lookup alike. -/
theorem get?_eq_of_perm {m other : OrderedMap κ α} (same : m.entries.Perm other.entries) (key : κ)
    : m.get? key = other.get? key := by
  apply Option.ext
  intro a
  rw [get?_eq_some_iff, get?_eq_some_iff, same.mem_iff]

/-- Looking up all keys in their order finds the values in that order. -/
theorem filterMap_get?_keys (m : OrderedMap κ α) : m.keys.filterMap m.get? = m.values := by
  rw [keys, values, List.filterMap_map, List.filterMap_eq_map_iff_forall_eq_some]
  intro e member
  exact get?_eq_some_iff.mpr member

-----------------------------------------------------------------------------------------
-- Building maps
-----------------------------------------------------------------------------------------

/-- A new key goes to the end. -/
theorem entries_insert_of_fresh {m : OrderedMap κ α} {key : κ}
    (fresh : key ∉ m.entries.map Prod.fst) (a : α)
    : (m.insert key a).entries = m.entries ++ [(key, a)] :=
  put_of_not_mem fresh a

/-- Entries with new and distinct keys are appended as they stand, by list induction. -/
theorem entries_foldl_insert {l : List (κ × α)} {m : OrderedMap κ α}
    (distinct : ((m.entries ++ l).map Prod.fst).Nodup)
    : (l.foldl (fun m e => m.insert e.1 e.2) m).entries = m.entries ++ l := by
  induction l generalizing m with
  | nil => simp
  | cons entry rest ih =>
      obtain ⟨k, a⟩ := entry
      have fresh : k ∉ m.entries.map Prod.fst := by
        simp only [List.map_append, List.map_cons] at distinct
        intro member
        exact (List.nodup_append.mp distinct).2.2 k member k (by simp) rfl
      have appended := entries_insert_of_fresh fresh a
      rw [List.foldl_cons, ih (by rw [appended]; simpa using distinct), appended]
      simp

/-- A list of entries with distinct keys is the list of entries of its map. -/
theorem entries_ofList {l : List (κ × α)} (distinct : (l.map Prod.fst).Nodup)
    : (ofList l).entries = l :=
  entries_foldl_insert (m := empty) (by simpa [empty] using distinct)

/-- Putting a value under a key adds no other entry, by list induction. -/
theorem eq_or_mem_of_mem_put {key : κ} {a : α} {l : List (κ × α)} {e : κ × α}
    (member : e ∈ put key a l)
    : e = (key, a) ∨ e ∈ l := by
  induction l with
  | nil => exact Or.inl (by simpa [put] using member)
  | cons entry rest ih =>
      obtain ⟨k, b⟩ := entry
      unfold put at member
      split at member
      · next same =>
          rcases List.mem_cons.mp member with rfl | later
          · exact Or.inl (same ▸ rfl)
          · exact Or.inr (List.mem_cons_of_mem _ later)
      · rcases List.mem_cons.mp member with rfl | later
        · exact Or.inr List.mem_cons_self
        · exact (ih later).imp_right (List.mem_cons_of_mem _)

/-- Inserting entries adds no others, by list induction. -/
theorem mem_or_mem_of_foldl_insert {l : List (κ × α)} {m : OrderedMap κ α} {e : κ × α}
    (member : e ∈ (l.foldl (fun m e => m.insert e.1 e.2) m).entries)
    : e ∈ m.entries ∨ e ∈ l := by
  induction l generalizing m with
  | nil => exact Or.inl member
  | cons entry rest ih =>
      rcases ih member with before | later
      · rcases eq_or_mem_of_mem_put before with rfl | former
        · exact Or.inr List.mem_cons_self
        · exact Or.inl former
      · exact Or.inr (List.mem_cons_of_mem _ later)

/-- The entries of the map of a list are entries of the list. -/
theorem mem_of_mem_ofList {l : List (κ × α)} {e : κ × α} (member : e ∈ (ofList l).entries)
    : e ∈ l := by
  rcases mem_or_mem_of_foldl_insert member with none | given
  · exact absurd none List.not_mem_nil
  · exact given

/-- The map whose values are changed by a function, each key in its place. -/
def mapValues {β : Type} (f : α → β) (m : OrderedMap κ α) : OrderedMap κ β :=
  ⟨m.entries.map fun e => (e.1, f e.2), by simpa [Function.comp_def] using m.nodup⟩

theorem put_put (key : κ) (a b : α) (l : List (κ × α))
    : put key b (put key a l) = put key b l := by
  induction l with
  | nil => simp [put]
  | cons entry rest ih =>
      obtain ⟨k, v⟩ := entry
      by_cases same : k = key
      · simp [put, same]
      · simp [put, same, ih]

/-- A key that has its place already may be given its value before or after another key, by list
induction.
-/
theorem put_comm {key other : κ} (apart : key ≠ other) (a b : α) {l : List (κ × α)}
    (placed : key ∈ l.map Prod.fst)
    : put key a (put other b l) = put other b (put key a l) := by
  induction l with
  | nil => simp at placed
  | cons entry rest ih =>
      obtain ⟨k, v⟩ := entry
      by_cases here : k = key
      · subst here
        simp [put, apart]
      · have later : key ∈ rest.map Prod.fst := by
          rcases List.mem_cons.mp placed with first | later
          · exact absurd first.symm here
          · exact later
        by_cases reached : k = other
        · subst reached
          simp [put, here]
        · simp [put, here, reached, ih later]

theorem mem_keys_put (key : κ) (a : α) (l : List (κ × α)) : key ∈ (put key a l).map Prod.fst := by
  rw [keys_put]
  split
  · assumption
  · simp

theorem insert_insert (m : OrderedMap κ α) (key : κ) (a b : α)
    : (m.insert key a).insert key b = m.insert key b :=
  ext_entries (put_put key a b m.entries)

/-- A key that is there may be given its value before or after entries of other keys, by list
induction.
-/
theorem foldl_insert_comm {l : List (κ × α)} {m : OrderedMap κ α} {key : κ}
    (placed : key ∈ m.entries.map Prod.fst) (apart : key ∉ l.map Prod.fst) (a : α)
    : l.foldl (fun m e => m.insert e.1 e.2) (m.insert key a)
      = (l.foldl (fun m e => m.insert e.1 e.2) m).insert key a := by
  induction l generalizing m with
  | nil => rfl
  | cons entry rest ih =>
      obtain ⟨k, b⟩ := entry
      simp only [List.map_cons, List.mem_cons, not_or] at apart
      have swapped : (m.insert key a).insert k b = (m.insert k b).insert key a :=
        ext_entries (put_comm apart.1 a b placed).symm
      have still : key ∈ (m.insert k b).entries.map Prod.fst := by
        change key ∈ (put k b m.entries).map Prod.fst
        rw [keys_put]
        split
        · exact placed
        · exact List.mem_append_left _ placed
      rw [List.foldl_cons, List.foldl_cons, swapped, ih still apart.2]

/-- Putting entries on top of a map and then another one is putting on top of it the entries with the
other one among them. The induction is over the entries; where the key is found, its former value is
overwritten, and its place in the lower map is kept.
-/
theorem foldl_insert_put {l : List (κ × α)} (distinct : (l.map Prod.fst).Nodup)
    (m : OrderedMap κ α) (key : κ) (a : α)
    : (put key a l).foldl (fun m e => m.insert e.1 e.2) m
      = (l.foldl (fun m e => m.insert e.1 e.2) m).insert key a := by
  induction l generalizing m with
  | nil => rfl
  | cons entry rest ih =>
      obtain ⟨k, b⟩ := entry
      obtain ⟨fresh, distinctRest⟩ := List.nodup_cons.mp distinct
      by_cases same : k = key
      · subst same
        have placed : k ∈ (m.insert k b).entries.map Prod.fst := mem_keys_put k b m.entries
        rw [put, if_pos rfl, List.foldl_cons, List.foldl_cons, ← foldl_insert_comm placed fresh,
          insert_insert]
      · rw [put, if_neg same, List.foldl_cons, List.foldl_cons, ih distinctRest]

theorem union_insert (m other : OrderedMap κ α) (key : κ) (a : α)
    : m.union (other.insert key a) = (m.union other).insert key a :=
  foldl_insert_put other.nodup m key a

/-- Putting the map of a list on top is inserting the list, by induction from its end. -/
theorem union_ofList (m : OrderedMap κ α) (l : List (κ × α))
    : m.union (ofList l) = l.foldl (fun m e => m.insert e.1 e.2) m := by
  induction l using List.reverseRecOn with
  | nil => rfl
  | append_singleton l e ih =>
      have last : ofList (l ++ [e]) = (ofList l).insert e.1 e.2 := by simp [ofList]
      rw [last, union_insert, ih]
      simp

theorem ofList_entries (m : OrderedMap κ α) : ofList m.entries = m :=
  ext_entries (entries_ofList m.nodup)

theorem ofList_append (l l' : List (κ × α)) : ofList (l ++ l') = (ofList l).union (ofList l') := by
  rw [union_ofList]
  exact List.foldl_append

theorem empty_union (m : OrderedMap κ α) : empty.union m = m := ofList_entries m

/-- Of three maps on top of each other it does not matter which two are put together first. -/
theorem union_assoc (m other top : OrderedMap κ α)
    : (m.union other).union top = m.union (other.union top) := by
  calc (m.union other).union top
    _ = (other.entries ++ top.entries).foldl (fun m e => m.insert e.1 e.2) m :=
      List.foldl_append.symm
    _ = m.union (ofList (other.entries ++ top.entries)) := (union_ofList m _).symm
    _ = m.union (other.union top) := by
      rw [ofList_append, ofList_entries, ofList_entries]

-----------------------------------------------------------------------------------------
-- Maps with the same keys
-----------------------------------------------------------------------------------------

/-- The entries have the same keys in the same order, and under each key the values are related. -/
def Matched {β : Type} (Related : κ → α → β → Prop) : List (κ × α) → List (κ × β) → Prop :=
  List.Forall₂ fun e e' => e.1 = e'.1 ∧ Related e.1 e.2 e'.2

section

variable {β : Type} {Related : κ → α → β → Prop} {l : List (κ × α)} {l' : List (κ × β)}

omit [DecidableEq κ] in
theorem Matched.keys (matched : Matched Related l l') : l.map Prod.fst = l'.map Prod.fst := by
  induction matched with
  | nil => rfl
  | cons first _ ih => rw [List.map_cons, List.map_cons, first.1, ih]

omit [DecidableEq κ] in
/-- Under a key of the one list there is a related value in the other one, by induction over the pairs
of entries.
-/
theorem Matched.exists_of_mem (matched : Matched Related l l') {key : κ} {a : α}
    (member : (key, a) ∈ l)
    : ∃ b, (key, b) ∈ l' ∧ Related key a b := by
  induction matched with
  | nil => simp at member
  | @cons e e' rest rest' first later ih =>
      rcases List.mem_cons.mp member with rfl | there
      · obtain ⟨k, b⟩ := e'
        obtain ⟨rfl, related⟩ := first
        exact ⟨b, List.mem_cons_self, related⟩
      · obtain ⟨b, listed, related⟩ := ih there
        exact ⟨b, List.mem_cons_of_mem _ listed, related⟩

/-- Related values under one key find the same place, by induction over the pairs of entries. -/
theorem Matched.put (matched : Matched Related l l') {key : κ} {a : α} {b : β}
    (related : Related key a b)
    : Matched Related (put key a l) (put key b l') := by
  induction matched with
  | nil => exact .cons ⟨rfl, related⟩ .nil
  | @cons e e' rest rest' first later ih =>
      obtain ⟨k, v⟩ := e
      obtain ⟨_, w⟩ := e'
      obtain ⟨rfl, value⟩ := first
      unfold OrderedMap.put
      by_cases same : k = key
      · subst same
        rw [if_pos rfl, if_pos rfl]
        exact .cons ⟨rfl, related⟩ later
      · rw [if_neg same, if_neg same]
        exact .cons ⟨rfl, value⟩ ih

/-- Matching entries put on top of matching maps match, by induction over the pairs of entries. -/
theorem Matched.foldl_insert (matched : Matched Related l l') {m : OrderedMap κ α}
    {m' : OrderedMap κ β} (below : Matched Related m.entries m'.entries)
    : Matched Related (l.foldl (fun m e => m.insert e.1 e.2) m).entries
        (l'.foldl (fun m e => m.insert e.1 e.2) m').entries := by
  induction matched generalizing m m' with
  | nil => exact below
  | @cons e e' rest rest' first later ih =>
      obtain ⟨k, v⟩ := e
      obtain ⟨_, w⟩ := e'
      obtain ⟨rfl, value⟩ := first
      exact ih (below.put value)

end

end FeatureFlags.OrderedMap
