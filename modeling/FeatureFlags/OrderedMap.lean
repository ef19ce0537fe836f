/-! Finite maps that remember the order of their keys. A key keeps the place at which it was first
inserted; inserting it again only changes its value.
-/

namespace FeatureFlags

/-- A finite map with its keys in order of first insertion. -/
structure OrderedMap (κ α : Type) where
  entries : List (κ × α)
  /-- No key occurs twice. -/
  nodup : (entries.map Prod.fst).Nodup

namespace OrderedMap

variable {κ α : Type} [DecidableEq κ]

def empty : OrderedMap κ α := ⟨[], List.nodup_nil⟩

instance : EmptyCollection (OrderedMap κ α) := ⟨empty⟩

instance : Inhabited (OrderedMap κ α) := ⟨empty⟩

/-- Gives `key` the value `value` in a list of entries. -/
def put (key : κ) (value : α) : List (κ × α) → List (κ × α)
  | [] => [(key, value)]
  | (k, v) :: rest => if k = key then (k, value) :: rest else (k, v) :: put key value rest

theorem keys_put (key : κ) (value : α) (l : List (κ × α))
    : (put key value l).map Prod.fst
      = if key ∈ l.map Prod.fst then l.map Prod.fst else l.map Prod.fst ++ [key] := by
  induction l with
  | nil => simp [put]
  | cons entry rest ih =>
    obtain ⟨k, v⟩ := entry
    by_cases h : k = key
    · simp [put, h]
    · have h' : ¬ key = k := fun e => h e.symm
      simp only [put, h, if_false, List.map_cons, ih, List.mem_cons, h', false_or]
      split <;> simp

theorem nodup_put (key : κ) (value : α) {l : List (κ × α)} (h : (l.map Prod.fst).Nodup)
    : ((put key value l).map Prod.fst).Nodup := by
  rw [keys_put]
  split
  · exact h
  · next hk => exact List.nodup_append.2 ⟨h, by simp, by simpa using fun a b hab e => hk (by
      exact List.mem_map.2 ⟨(a, b), hab, e⟩)⟩

/-- Gives `key` the value `value`. -/
def insert (m : OrderedMap κ α) (key : κ) (value : α) : OrderedMap κ α :=
  ⟨put key value m.entries, nodup_put key value m.nodup⟩

/-- The map without a key. -/
def erase (m : OrderedMap κ α) (key : κ) : OrderedMap κ α :=
  ⟨m.entries.filter fun e => e.1 ≠ key,
    List.Nodup.sublist (List.filter_sublist.map Prod.fst) m.nodup⟩

/-- The map of a list of entries; a later entry replaces the value of an earlier one. -/
def ofList (l : List (κ × α)) : OrderedMap κ α := l.foldl (fun m e => m.insert e.1 e.2) empty

/-- The entries of `other` put on top of those of `m`. -/
def union (m other : OrderedMap κ α) : OrderedMap κ α :=
  other.entries.foldl (fun m e => m.insert e.1 e.2) m

def get? (m : OrderedMap κ α) (key : κ) : Option α := m.entries.lookup key

def contains (m : OrderedMap κ α) (key : κ) : Bool := (m.get? key).isSome

def keys (m : OrderedMap κ α) : List κ := m.entries.map Prod.fst

def values (m : OrderedMap κ α) : List α := m.entries.map Prod.snd

def size (m : OrderedMap κ α) : Nat := m.entries.length

end OrderedMap

end FeatureFlags
