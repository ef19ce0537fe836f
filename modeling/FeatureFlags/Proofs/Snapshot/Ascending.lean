import FeatureFlags.Proofs.OrderedMap
import FeatureFlags.Snapshot.Basic
import Mathlib.Data.List.Nodup

/-! Parts in the order of their keys. If their keys differ, parts can be brought into ascending order
in one way only, so that it does not matter in which order they were before.
-/

namespace FeatureFlags.Snapshot

section

variable {α : Type} (key : α → String) {l other : List α}

theorem pairwise_mergeSort_by (l : List α)
    : (l.mergeSort fun a b => !decide (key b < key a)).Pairwise fun a b => key a ≤ key b := by
  have sorted := @List.pairwise_mergeSort _ (fun a b => !decide (key b < key a)) ?_ ?_ l
  · exact sorted.imp fun {a b} before => String.not_lt.mp (by simpa using before)
  · intro a b c first second
    simp only [Bool.not_eq_true', decide_eq_false_iff_not, String.not_lt] at first second ⊢
    exact String.le_trans first second
  · intro a b
    simp only [Bool.or_eq_true, Bool.not_eq_true', decide_eq_false_iff_not, String.not_lt]
    exact String.le_total (key a) (key b)

/-- Different keys ascend strictly. -/
theorem pairwise_lt_mergeSort (distinct : (l.map key).Nodup)
    : (l.mergeSort fun a b => !decide (key b < key a)).Pairwise fun a b => key a < key b := by
  have same := (List.mergeSort_perm l fun a b => !decide (key b < key a)).map key
  refine (pairwise_mergeSort_by key l).imp₂ ?_ (List.pairwise_map.mp (same.nodup_iff.mpr distinct))
  intro a b before different
  exact String.not_le.mp fun after => different (String.le_antisymm before after)

/-- The former order of parts with different keys leaves no trace. -/
theorem mergeSort_eq_of_perm (perm : l.Perm other) (distinct : (l.map key).Nodup)
    : (l.mergeSort fun a b => !decide (key b < key a))
      = other.mergeSort fun a b => !decide (key b < key a) := by
  have distinct' := ((perm.map key).nodup_iff).mp distinct
  refine List.Perm.eq_of_pairwise ?_ (pairwise_lt_mergeSort key distinct)
    (pairwise_lt_mergeSort key distinct')
    ((List.mergeSort_perm l _).trans (perm.trans (List.mergeSort_perm other _).symm))
  exact fun a b _ _ before after => absurd (String.lt_trans before after) (String.lt_irrefl _)

end

theorem pairwise_ascending {l : List String} (distinct : l.Nodup)
    : (ascending l).Pairwise (· < ·) :=
  pairwise_lt_mergeSort id (by rwa [List.map_id])

theorem ascending_eq_of_perm {l other : List String} (perm : l.Perm other) (distinct : l.Nodup)
    : ascending l = ascending other :=
  mergeSort_eq_of_perm id perm (by rwa [List.map_id])

-----------------------------------------------------------------------------------------
-- The flags of an environment
-----------------------------------------------------------------------------------------

/-- A flag has one state in each environment. -/
theorem nodup_environmentsOf (s : Snapshot) (key : String)
    : (((s.states.entries.filter fun e => e.1.1 == key).map fun e => (e.1.2, e.2)).map
        Prod.fst).Nodup := by
  rw [List.map_map, List.Nodup, List.pairwise_map]
  have distinct : (s.states.entries.filter fun e => e.1.1 == key).Pairwise (·.1 ≠ ·.1) :=
    (List.pairwise_map.mp s.states.nodup).filter _
  refine distinct.imp_of_mem ?_
  intro a b left right different same
  have flagOfA : a.1.1 = key := by simpa using (List.mem_filter.mp left).2
  have flagOfB : b.1.1 = key := by simpa using (List.mem_filter.mp right).2
  exact different (Prod.ext (flagOfA.trans flagOfB.symm) same)

/-- The environments of a flag ascend. -/
theorem pairwise_statesOf (s : Snapshot) (key : String)
    : ((s.statesOf key).map Prod.fst).Pairwise (· < ·) :=
  List.pairwise_map.mpr (pairwise_lt_mergeSort Prod.fst (s.nodup_environmentsOf key))

theorem nodup_statesOf (s : Snapshot) (key : String) : ((s.statesOf key).map Prod.fst).Nodup :=
  (s.pairwise_statesOf key).imp String.ne_of_lt

end FeatureFlags.Snapshot
