import Mathlib.Data.List.Dedup
import Mathlib.Data.Finset.Card

/-! In which order keys were asked for last. A history lists what was asked for, the first question
first, and may have the same key many times; of keys that can be answered, it is their last time that
puts them in order.
-/

namespace FeatureFlags

variable {κ : Type}

-----------------------------------------------------------------------------------------
-- Which of two keys was asked for later
-----------------------------------------------------------------------------------------

/-- Of two keys, the second one was asked for after the first one was asked for the last time. -/
def AskedLater (history : List κ) (older newer : κ) : Prop :=
  ∃ before after, history = before ++ older :: after ∧ older ∉ after ∧ newer ∈ after

variable {history l : List κ} {key older newer : κ} {n : Nat}

theorem AskedLater.cons (later : AskedLater history older newer) (key : κ)
    : AskedLater (key :: history) older newer := by
  obtain ⟨before, after, rfl, last, found⟩ := later
  exact ⟨key :: before, after, rfl, last, found⟩

/-- What stands behind the last occurrence of a key cannot be the key. -/
theorem AskedLater.ne (later : AskedLater history older newer) : older ≠ newer := by
  obtain ⟨_, after, -, last, found⟩ := later
  exact fun same => last (same ▸ found)

/-- Not both of two keys were asked for later than the other one, since the last occurrence of the one
stands behind that of the other.
-/
theorem AskedLater.asymm (later : AskedLater history older newer)
    : ¬ AskedLater history newer older := by
  rintro ⟨before', after', split', last', found'⟩
  have differ := later.ne
  obtain ⟨before, after, split, last, found⟩ := later
  -- Behind the last occurrence that comes first stands the other one, and behind that the first key.
  rcases List.append_eq_append_iff.mp (split.symm.trans split')
    with ⟨between, -, rest⟩ | ⟨between, -, rest⟩
  · rcases List.cons_eq_append_iff.mp rest with ⟨-, heads⟩ | ⟨between', -, rfl⟩
    · exact differ (List.cons.inj heads).1.symm
    · exact last (List.mem_append_right _ (List.mem_cons_of_mem _ found'))
  · rcases List.cons_eq_append_iff.mp rest with ⟨-, heads⟩ | ⟨between', -, rfl⟩
    · exact differ (List.cons.inj heads).1
    · exact last' (List.mem_append_right _ (List.mem_cons_of_mem _ found))

-----------------------------------------------------------------------------------------
-- The last one of several keys
-----------------------------------------------------------------------------------------

/-- A new key in front pushes a key out exactly if the list is full and the key is its last one. -/
theorem notMem_take_cons_iff (nodup : l.Nodup) (fresh : key ∉ l) (bounded : l.length ≤ n) {last : κ}
    (held : last ∈ l)
    : last ∉ (key :: l).take n ↔ l.length = n ∧ ∃ others, l = others ++ [last] := by
  obtain ⟨others, last', rfl⟩ := (List.eq_nil_or_concat' l).resolve_left (List.ne_nil_of_mem held)
  -- A list that is full keeps all but its last key, so the question is which key that is.
  have full : (key :: (others ++ [last'])).take (others ++ [last']).length = key :: others := by
    simp
  constructor
  · intro pushed
    have tight : (others ++ [last']).length = n := by
      refine bounded.antisymm (not_lt.mp fun roomy => pushed ?_)
      rw [List.take_of_length_le (Nat.succ_le_of_lt roomy)]
      exact List.mem_cons_of_mem _ held
    rw [← tight, full] at pushed
    have same := (List.mem_append.mp held).resolve_left fun h => pushed (List.mem_cons_of_mem _ h)
    exact ⟨tight, others, by rw [List.mem_singleton.mp same]⟩
  · rintro ⟨rfl, others', split⟩ kept
    obtain ⟨rfl, rfl⟩ := List.concat_inj.mp (by simpa using split)
    rw [full] at kept
    rcases List.mem_cons.mp kept with rfl | among
    · exact fresh held
    · exact (List.disjoint_of_nodup_append nodup) among (List.mem_singleton_self _)

/-- The last one of keys in the order of their last occurrences is the one than which all others were
asked for later.
-/
theorem exists_concat_iff (inOrder : l.Pairwise fun newer older => AskedLater history older newer)
    {last : κ} (held : last ∈ l)
    : (∃ others, l = others ++ [last])
      ↔ ∀ other ∈ l, other ≠ last → AskedLater history last other := by
  constructor
  · rintro ⟨others, rfl⟩ other member differ
    have among := (List.mem_append.mp member).resolve_right (by simpa using differ)
    exact (List.pairwise_append.mp inOrder).2.2 other among last (List.mem_singleton_self last)
  · intro later
    obtain ⟨others, last', rfl⟩ :=
      (List.eq_nil_or_concat' l).resolve_left (List.ne_nil_of_mem held)
    by_cases same : last' = last
    · exact ⟨others, by rw [same]⟩
    · have among : last ∈ others :=
        (List.mem_append.mp held).resolve_right (by simpa using Ne.symm same)
      have later' : AskedLater history last' last :=
        (List.pairwise_append.mp inOrder).2.2 last among last' (List.mem_singleton_self last')
      exact absurd later' (later last' (by simp) same).asymm

-----------------------------------------------------------------------------------------
-- The last occurrences of keys
-----------------------------------------------------------------------------------------

variable [DecidableEq κ]

/-- Without the earlier occurrences of keys, a list is in the order of the last ones, by list
induction.
-/
theorem pairwise_dedup (history : List κ) : history.dedup.Pairwise (AskedLater history) := by
  induction history with
  | nil => exact List.Pairwise.nil
  | cons key rest ih =>
      have extended : rest.dedup.Pairwise (AskedLater (key :: rest)) := ih.imp fun h => h.cons key
      by_cases again : key ∈ rest
      · rw [List.dedup_cons_of_mem again]
        exact extended
      · rw [List.dedup_cons_of_notMem again]
        refine extended.cons fun newer found => ?_
        exact ⟨[], rest, rfl, again, List.mem_dedup.mp found⟩

/-- Of the occurrences of the last key of a list, the last one is kept, by list induction. -/
theorem dedup_concat (l : List κ) (key : κ)
    : (l ++ [key]).dedup = l.dedup.filter (· ≠ key) ++ [key] := by
  induction l with
  | nil => rfl
  | cons first rest ih =>
      by_cases again : first ∈ rest
      · simp [again, ih]
      · rw [List.cons_append]
        by_cases same : first = key
        · subst same
          rw [List.dedup_cons_of_mem (by simp), List.dedup_cons_of_notMem again, ih]
          simp
        · rw [List.dedup_cons_of_notMem (by simp [again, same]), List.dedup_cons_of_notMem again, ih]
          simp [same]

-----------------------------------------------------------------------------------------
-- The keys that were asked for
-----------------------------------------------------------------------------------------

/-- The valid keys of a history, each of them once and the one asked for last first. -/
def recent (valid : κ → Bool) (history : List κ) : List κ := (history.dedup.filter valid).reverse

variable {valid : κ → Bool}

theorem mem_recent : key ∈ recent valid history ↔ valid key = true ∧ key ∈ history := by
  simp [recent, and_comm]

theorem nodup_recent (valid : κ → Bool) (history : List κ) : (recent valid history).Nodup :=
  List.nodup_reverse.mpr (history.nodup_dedup.filter valid)

theorem pairwise_recent (valid : κ → Bool) (history : List κ)
    : (recent valid history).Pairwise fun newer older => AskedLater history older newer :=
  List.pairwise_reverse.mpr ((pairwise_dedup history).filter valid)

/-- The recent keys are the distinct ones among those that are valid. -/
theorem length_recent (valid : κ → Bool) (history : List κ)
    : (recent valid history).length = (history.filter valid).toFinset.card := by
  rw [← List.toFinset_card_of_nodup (nodup_recent valid history)]
  congr 1
  ext key
  simp [mem_recent, and_comm]

/-- A valid key that is asked for is the most recent one from then on. -/
theorem recent_concat_of_valid (works : valid key = true)
    : recent valid (history ++ [key]) = key :: (recent valid history).filter (· ≠ key) := by
  simp [recent, dedup_concat, works, List.filter_reverse, Bool.and_comm]

theorem recent_concat_of_invalid (fails : valid key = false)
    : recent valid (history ++ [key]) = recent valid history := by
  have others (k : κ) : (valid k && decide (k ≠ key)) = valid k := by
    by_cases same : k = key <;> simp [same, fails]
  simp only [recent, dedup_concat, List.filter_append, List.filter_filter, others]
  simp [fails]

theorem length_recent_le_concat (valid : κ → Bool) (history : List κ) (key : κ)
    : (recent valid history).length ≤ (recent valid (history ++ [key])).length := by
  rw [length_recent, length_recent, List.filter_append, List.toFinset_append]
  exact Finset.card_le_card Finset.subset_union_left

-----------------------------------------------------------------------------------------
-- The most recent ones of them
-----------------------------------------------------------------------------------------

theorem filter_ne_of_notMem (missing : key ∉ l) : l.filter (· ≠ key) = l :=
  List.filter_eq_self.mpr fun _ member => decide_eq_true (ne_of_mem_of_not_mem member missing)

/-- To put one of the keys in front changes only their order. -/
theorem perm_front_of_mem (nodup : l.Nodup) (found : key ∈ l)
    : (key :: l.filter (· ≠ key)).Perm l := by
  have erased : l.erase key = l.filter (· ≠ key) :=
    (nodup.erase_eq_filter key).trans
      (List.filter_congr fun _ _ => Bool.eq_iff_iff.mpr (by simp))
  exact erased ▸ (List.perm_cons_erase found).symm

/-- Without one of its first keys a list has the rest of these first, by list induction. -/
theorem take_filter_ne_of_mem (nodup : l.Nodup) (found : key ∈ l.take (n + 1))
    : (l.filter (· ≠ key)).take n = (l.take (n + 1)).filter (· ≠ key) := by
  induction l generalizing n with
  | nil => simp at found
  | cons first rest ih =>
      obtain ⟨fresh, nodup⟩ := List.nodup_cons.mp nodup
      rw [List.take_succ_cons] at found ⊢
      by_cases same : first = key
      · subst same
        have fresh' : first ∉ rest.take n := fun h => fresh (List.mem_of_mem_take h)
        rw [List.filter_cons_of_neg (by simp), List.filter_cons_of_neg (by simp),
          filter_ne_of_notMem fresh, filter_ne_of_notMem fresh']
      · have found := (List.mem_cons.mp found).resolve_left (Ne.symm same)
        obtain ⟨m, rfl⟩ : ∃ m, n = m + 1 :=
          Nat.exists_eq_succ_of_ne_zero (by rintro rfl; simp at found)
        rw [List.filter_cons_of_pos (by simpa using same),
          List.filter_cons_of_pos (by simpa using same), List.take_succ_cons, ih nodup found]

/-- Without a later key a list has the same keys first, by list induction. -/
theorem take_filter_ne_of_notMem (missing : key ∉ l.take n)
    : (l.filter (· ≠ key)).take n = l.take n := by
  induction l generalizing n with
  | nil => rfl
  | cons first rest ih =>
      cases n with
      | zero => simp
      | succ m =>
          rw [List.take_succ_cons, List.mem_cons, not_or] at missing
          rw [List.filter_cons_of_pos (by simpa using Ne.symm missing.1), List.take_succ_cons,
            List.take_succ_cons, ih missing.2]

/-- A key that is put in front again changes only the order of the first keys if it is one of them. -/
theorem take_front_of_mem (nodup : l.Nodup) (found : key ∈ l.take n)
    : (key :: l.filter (· ≠ key)).take n = key :: (l.take n).filter (· ≠ key) := by
  obtain ⟨m, rfl⟩ : ∃ m, n = m + 1 :=
    Nat.exists_eq_succ_of_ne_zero (by rintro rfl; simp at found)
  rw [List.take_succ_cons, take_filter_ne_of_mem nodup found]

/-- A key that is put in front and was not one of the first keys pushes the last of these out. -/
theorem take_front_of_notMem (missing : key ∉ l.take n)
    : (key :: l.filter (· ≠ key)).take n = (key :: l.take n).take n := by
  cases n with
  | zero => simp
  | succ m =>
      have missing' : key ∉ l.take m := fun h =>
        missing ((List.take_prefix_take_left (Nat.le_succ m)).subset h)
      rw [List.take_succ_cons, List.take_succ_cons, take_filter_ne_of_notMem missing',
        List.take_take, Nat.min_eq_left (Nat.le_succ m)]

end FeatureFlags
