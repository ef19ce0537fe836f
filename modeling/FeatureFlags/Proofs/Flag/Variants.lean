import FeatureFlags.Flag.Basic
import FeatureFlags.Proofs.Datum.Plain
import FeatureFlags.Proofs.Field.Checked

/-! The variants of a flag: reading them leaves each value once, and a list of different texts is read
as it stands.
-/

namespace FeatureFlags

namespace Datum

/-- No value counts as the same key as an earlier one. -/
def KeysDiffer (l : List Datum) : Prop := l.Pairwise fun x y => sameKey y x = false

/-- Adding a value that counts as none of the others. -/
theorem KeysDiffer.concat {l : List Datum} (differ : KeysDiffer l) {x : Datum}
    (fresh : l.any (sameKey x) = false)
    : KeysDiffer (l ++ [x]) := by
  refine List.pairwise_append.mpr ⟨differ, List.pairwise_singleton _ _, ?_⟩
  intro y member z last
  obtain rfl := List.mem_singleton.mp last
  simpa using List.any_eq_false.mp fresh y member

/-- Of the values of a list, those that are left differ, by list induction. -/
theorem keysDiffer_distinct (l : List Datum) : KeysDiffer (distinct l) := by
  have collected (all : List Datum) (differ : KeysDiffer all)
      : KeysDiffer
        (l.foldl (fun all x => if all.any (sameKey x) then all else all ++ [x]) all) := by
    induction l generalizing all with
    | nil => exact differ
    | cons x rest ih =>
        rw [List.foldl_cons]
        cases known : all.any (sameKey x) with
        | true => exact ih all differ
        | false => exact ih _ (differ.concat known)
  exact collected [] List.Pairwise.nil

/-- Values that differ from those before are all added, by list induction. -/
theorem foldl_distinct {l : List Datum} (all : List Datum) (differ : KeysDiffer (all ++ l))
    : l.foldl (fun all x => if all.any (sameKey x) then all else all ++ [x]) all = all ++ l := by
  induction l generalizing all with
  | nil => simp
  | cons x rest ih =>
      have fresh : all.any (sameKey x) = false := by
        rw [List.any_eq_false]
        intro y member
        have apart := (List.pairwise_append.mp differ).2.2 y member x List.mem_cons_self
        simp [apart]
      rw [List.foldl_cons, fresh, if_neg Bool.false_ne_true,
        ih (all ++ [x]) (by simpa using differ)]
      simp

theorem distinct_eq_self {l : List Datum} (differ : KeysDiffer l) : distinct l = l :=
  foldl_distinct [] differ

theorem sameKey_text (s t : String) : sameKey (.text s) (.text t) = (s == t) := by
  simp [sameKey]

theorem keysDiffer_texts {l : List String} : KeysDiffer (l.map .text) ↔ l.Nodup := by
  simp only [KeysDiffer, List.pairwise_map, List.Nodup, sameKey_text, beq_eq_false_iff_ne]
  constructor
  · intro differ
    exact differ.imp Ne.symm
  · intro differ
    exact differ.imp Ne.symm

theorem unhashableIn?_texts (l : List String) : unhashableIn? (l.map .text) = none := by
  induction l with
  | nil => rfl
  | cons s rest ih => simp [unhashableIn?, unhashable?, ih]

end Datum

theorem Field.text_eq_ok {x : Datum} {s : String} : Field.text x = .ok s ↔ x = .text s := by
  cases x <;> simp [Field.text, Checked.issue]

/-- Texts are read from the list of these texts, and from no other one. -/
theorem Field.map_text_eq_iff {members : List Datum} {l : List String}
    : members.map Field.text = l.map Checked.ok ↔ members = l.map .text := by
  induction members generalizing l with
  | nil => cases l <;> simp
  | cons x rest ih => cases l <;> simp [ih, Field.text_eq_ok]

namespace Flag

/-- Variants that are read from plain data differ from each other. -/
theorem nodup_of_readVariants {x : Datum} (plain : x.Plain) {variants : List String}
    (found : readVariants x = .ok variants)
    : variants.Nodup := by
  have sequence {members : List Datum}
      (found : Checked.items Field.text 0 (Datum.distinct members) = .ok variants)
      : variants.Nodup := by
    rw [Checked.items_eq_ok, Field.map_text_eq_iff] at found
    rw [← Datum.keysDiffer_texts, ← found]
    exact Datum.keysDiffer_distinct members
  unfold readVariants at found
  split at found
  · split at found
    · contradiction
    · exact sequence found
  · split at found
    · contradiction
    · exact sequence found
  · next other _ =>
      cases plain with
      | list each => exact absurd rfl (other _)
      | _ => simp [Field.tuple, Datum.items?, Checked.issue] at found

/-- A list of different texts is read as it stands. -/
theorem readVariants_texts {variants : List String} (differ : variants.Nodup)
    : readVariants (.list (variants.map .text)) = .ok variants := by
  have kept := Datum.distinct_eq_self (Datum.keysDiffer_texts.mpr differ)
  simp only [readVariants, Datum.unhashableIn?_texts, kept]
  exact Checked.items_eq_ok.mpr (Field.map_text_eq_iff.mpr rfl)

end Flag

end FeatureFlags
