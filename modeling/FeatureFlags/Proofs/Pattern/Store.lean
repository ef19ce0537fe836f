import FeatureFlags.Pattern.Cache
import FeatureFlags.Proofs.Pattern.Recency

/-! What a store of results holds after any number of questions: the results of the keys that were
asked for last, as many as there is room for. Which key is dropped, how often a key is computed and
what the counters say follows from this.
-/

namespace FeatureFlags.Cache

variable {κ α ε : Type} [DecidableEq κ]

def keys (c : Cache κ α) : List κ := c.entries.map (·.1)

/-- The store after keys were asked for, one after the other. -/
def afterAll (compute : κ → Except ε α) (c : Cache κ α) (history : List κ) : Cache κ α :=
  history.foldl (fun c key => (c.ask compute key).2) c

/-- The keys among those asked for whose results were not found and had to be computed. -/
def computed (compute : κ → Except ε α) (c : Cache κ α) : List κ → List κ
  | [] => []
  | key :: rest =>
    (if (c.entries.lookup key).isNone then [key] else [])
      ++ computed compute (c.ask compute key).2 rest

/-- Whether a key has a result. -/
def works (compute : κ → Except ε α) (key : κ) : Bool := (compute key).isOk

/-- The results that are held are those that would be computed. -/
def Sound (compute : κ → Except ε α) (c : Cache κ α) : Prop :=
  ∀ key value, (key, value) ∈ c.entries → compute key = .ok value

variable {compute : κ → Except ε α} {c : Cache κ α} {key : κ} {history : List κ}

omit [DecidableEq κ] in
theorem works_iff : works compute key = true ↔ ∃ value, compute key = .ok value := by
  unfold works
  cases compute key <;> simp [Except.isOk, Except.toBool]

theorem lookup_eq_none_iff : c.entries.lookup key = none ↔ key ∉ c.keys := by
  simp only [List.lookup_eq_none_iff, keys, List.mem_map, not_exists, not_and, bne_iff_ne, ne_eq]
  exact ⟨fun h e member same => h e member same.symm, fun h e member same => h e member same.symm⟩

-----------------------------------------------------------------------------------------
-- A single question
-----------------------------------------------------------------------------------------

/-- A question finds the result of a key, or has it computed and stored, or fails. -/
theorem ask_cases (sound : c.Sound compute) (key : κ)
    : (∃ value,
        compute key = .ok value
        ∧ key ∈ c.keys
        ∧ c.ask compute key
          = (.ok value,
              { c with
                entries := (key, value) :: c.entries.filter fun e => e.1 ≠ key
                hits := c.hits + 1 }))
      ∨ (∃ value,
        compute key = .ok value
        ∧ key ∉ c.keys
        ∧ c.ask compute key
          = (.ok value,
              { c with
                entries := ((key, value) :: c.entries).take c.capacity
                misses := c.misses + 1 }))
      ∨ (∃ e,
        compute key = .error e
        ∧ key ∉ c.keys
        ∧ c.ask compute key = (.error e, { c with misses := c.misses + 1 })) := by
  cases found : c.entries.lookup key with
  | some value =>
      obtain ⟨before, after, split, -⟩ := List.lookup_eq_some_iff.mp found
      have member : (key, value) ∈ c.entries := by simp [split]
      exact .inl ⟨value, sound key value member, List.mem_map_of_mem member, by simp [ask, found]⟩
  | none =>
      have missing := lookup_eq_none_iff.mp found
      cases result : compute key with
      | ok value => exact .inr (.inl ⟨value, rfl, missing, by simp [ask, found, result]⟩)
      | error e => exact .inr (.inr ⟨e, rfl, missing, by simp [ask, found, result]⟩)

/-- The answer is the one that would be computed. -/
theorem Sound.answer (sound : c.Sound compute) (key : κ)
    : (c.ask compute key).1 = compute key := by
  rcases ask_cases sound key
    with ⟨value, result, -, asked⟩ | ⟨value, result, -, asked⟩ | ⟨e, result, -, asked⟩
  all_goals rw [asked, result]

theorem Sound.ask (sound : c.Sound compute) (key : κ) : (c.ask compute key).2.Sound compute := by
  intro key' value' member
  rcases ask_cases sound key
    with ⟨value, result, -, asked⟩ | ⟨value, result, -, asked⟩ | ⟨e, result, -, asked⟩
  · rw [asked] at member
    rcases List.mem_cons.mp member with same | kept
    · obtain ⟨rfl, rfl⟩ := Prod.mk.inj same
      exact result
    · exact sound _ _ (List.mem_of_mem_filter kept)
  · rw [asked] at member
    rcases List.mem_cons.mp (List.mem_of_mem_take member) with same | kept
    · obtain ⟨rfl, rfl⟩ := Prod.mk.inj same
      exact result
    · exact sound _ _ kept
  · rw [asked] at member
    exact sound _ _ member

theorem capacity_ask (sound : c.Sound compute) (key : κ)
    : (c.ask compute key).2.capacity = c.capacity := by
  rcases ask_cases sound key with ⟨_, -, -, asked⟩ | ⟨_, -, -, asked⟩ | ⟨_, -, -, asked⟩
  all_goals rw [asked]

theorem keys_ask_of_mem (sound : c.Sound compute) (found : key ∈ c.keys)
    : (c.ask compute key).2.keys = key :: c.keys.filter (· ≠ key) := by
  rcases ask_cases sound key with ⟨_, -, -, asked⟩ | ⟨_, -, missing, -⟩ | ⟨_, -, missing, -⟩
  · rw [asked]
    simp [keys, List.filter_map, Function.comp_def]
  · exact absurd found missing
  · exact absurd found missing

theorem keys_ask_of_notMem (sound : c.Sound compute) (works : works compute key = true)
    (missing : key ∉ c.keys)
    : (c.ask compute key).2.keys = (key :: c.keys).take c.capacity := by
  obtain ⟨value, result⟩ := works_iff.mp works
  rcases ask_cases sound key with ⟨_, -, found, -⟩ | ⟨_, -, -, asked⟩ | ⟨_, failed, -, -⟩
  · exact absurd found missing
  · rw [asked]
    simp [keys, List.map_take]
  · simp [result] at failed

theorem keys_ask_of_fails (sound : c.Sound compute) (fails : works compute key = false)
    : (c.ask compute key).2.keys = c.keys := by
  rcases ask_cases sound key with ⟨_, result, -, -⟩ | ⟨_, result, -, -⟩ | ⟨_, -, -, asked⟩
  · simp [works_iff.mpr ⟨_, result⟩] at fails
  · simp [works_iff.mpr ⟨_, result⟩] at fails
  · rw [asked]
    rfl

omit [DecidableEq κ] in
theorem Sound.works_of_mem (sound : c.Sound compute) (found : key ∈ c.keys)
    : works compute key = true := by
  obtain ⟨⟨key, value⟩, member, rfl⟩ := List.mem_map.mp found
  exact works_iff.mpr ⟨value, sound _ _ member⟩

/-- A question is counted as one that has found a result or as one that has not. -/
theorem counts_ask (sound : c.Sound compute) (key : κ)
    : (c.ask compute key).2.hits + (c.ask compute key).2.misses = c.hits + c.misses + 1 := by
  rcases ask_cases sound key with ⟨_, -, -, asked⟩ | ⟨_, -, -, asked⟩ | ⟨_, -, -, asked⟩
  all_goals
    rw [asked]
    dsimp only
    omega

/-- It is counted as one that has not exactly if the result had to be computed. -/
theorem misses_ask (key : κ)
    : (c.ask compute key).2.misses
      = c.misses + (if (c.entries.lookup key).isNone then [key] else []).length := by
  unfold ask
  cases c.entries.lookup key with
  | some value => rfl
  | none => cases compute key <;> rfl

-----------------------------------------------------------------------------------------
-- All questions so far
-----------------------------------------------------------------------------------------

theorem afterAll_concat (compute : κ → Except ε α) (c : Cache κ α) (history : List κ) (key : κ)
    : c.afterAll compute (history ++ [key]) = ((c.afterAll compute history).ask compute key).2 := by
  simp [afterAll]

theorem afterAll_append (compute : κ → Except ε α) (c : Cache κ α) (before after : List κ)
    : c.afterAll compute (before ++ after)
      = (c.afterAll compute before).afterAll compute after :=
  List.foldl_append

/-- What has to be computed for the last question depends on the questions before it, by list
induction.
-/
theorem computed_concat (compute : κ → Except ε α) (c : Cache κ α) (history : List κ) (key : κ)
    : c.computed compute (history ++ [key])
      = c.computed compute history
        ++ if ((c.afterAll compute history).entries.lookup key).isNone then [key] else [] := by
  induction history generalizing c with
  | nil => exact List.append_nil _
  | cons first rest ih =>
      rw [List.cons_append, computed, computed, ih, List.append_assoc]
      rfl

theorem computed_concat_of_mem (found : key ∈ (c.afterAll compute history).keys)
    : c.computed compute (history ++ [key]) = c.computed compute history := by
  have held : ¬ (c.afterAll compute history).entries.lookup key = none :=
    fun h => lookup_eq_none_iff.mp h found
  rw [computed_concat, if_neg (by simpa using held), List.append_nil]

theorem computed_concat_of_notMem (missing : key ∉ (c.afterAll compute history).keys)
    : c.computed compute (history ++ [key]) = c.computed compute history ++ [key] := by
  rw [computed_concat, if_pos (by simpa using lookup_eq_none_iff.mpr missing)]

/-- A store is as the questions so far have left it: it holds right results, those of the keys asked
for last, and has counted the questions.
-/
structure Remembers (compute : κ → Except ε α) (history : List κ) (c : Cache κ α) : Prop where
  sound : c.Sound compute
  keys : c.keys = (recent (works compute) history).take c.capacity
  counted : c.hits + c.misses = history.length

theorem remembers_ofCapacity (compute : κ → Except ε α) (n : Nat)
    : Remembers compute [] (ofCapacity n) where
  sound _ _ member := by simp [ofCapacity] at member
  keys := by simp [Cache.keys, ofCapacity, recent]
  counted := rfl

/-- A question is remembered along with the ones before it. A key that is found moves to the front, a
key that is computed pushes out the last one, and a key that fails leaves all as it is.
-/
theorem Remembers.ask (remembers : c.Remembers compute history) (key : κ)
    : (c.ask compute key).2.Remembers compute (history ++ [key]) := by
  obtain ⟨sound, keys, counted⟩ := remembers
  refine ⟨sound.ask key, ?_, ?_⟩
  · rw [capacity_ask sound]
    by_cases working : works compute key = true
    · rw [recent_concat_of_valid working]
      by_cases found : key ∈ c.keys
      · rw [keys_ask_of_mem sound found, keys, take_front_of_mem (nodup_recent _ _) (keys ▸ found)]
      · rw [keys_ask_of_notMem sound working found, keys, take_front_of_notMem (keys ▸ found)]
    · have fails := Bool.eq_false_iff.mpr working
      rw [keys_ask_of_fails sound fails, recent_concat_of_invalid fails, keys]
  · rw [counts_ask sound, counted, List.length_append, List.length_singleton]

/-- A store that was empty remembers all questions, by induction over them. -/
theorem remembers_afterAll (compute : κ → Except ε α) (n : Nat) (history : List κ)
    : Remembers compute history ((ofCapacity n).afterAll compute history) := by
  induction history using List.reverseRecOn with
  | nil => exact remembers_ofCapacity compute n
  | append_singleton before key ih =>
      rw [afterAll_concat]
      exact ih.ask key

theorem capacity_afterAll (compute : κ → Except ε α) (n : Nat) (history : List κ)
    : ((ofCapacity n).afterAll compute history).capacity = n := by
  induction history using List.reverseRecOn with
  | nil => rfl
  | append_singleton before key ih =>
      rw [afterAll_concat, capacity_ask (remembers_afterAll compute n before).sound, ih]

theorem keys_afterAll (compute : κ → Except ε α) (n : Nat) (history : List κ)
    : ((ofCapacity n).afterAll compute history).keys = (recent (works compute) history).take n := by
  rw [(remembers_afterAll compute n history).keys, capacity_afterAll]

/-- Of two keys the one that was asked for again is kept. -/
example
    : ((ofCapacity 2).afterAll (fun key : Nat => (.ok key : Except Unit Nat)) [1, 2, 1, 3]).keys
      = [3, 1] := by
  decide

/-- There are as many results as there are keys to have them, or as there is room for. -/
theorem size_afterAll (compute : κ → Except ε α) (n : Nat) (history : List κ)
    : ((ofCapacity n).afterAll compute history).size
      = min n (history.filter (works compute)).toFinset.card := by
  rw [size, ← List.length_map (·.1), ← keys, keys_afterAll, List.length_take, length_recent]

-----------------------------------------------------------------------------------------
-- What is dropped
-----------------------------------------------------------------------------------------

/-- A key is dropped exactly if another one is stored for which there is no room, and all others were
asked for later.
-/
theorem Remembers.dropped_iff (remembers : c.Remembers compute history) {dropped : κ}
    : dropped ∈ c.keys ∧ dropped ∉ (c.ask compute key).2.keys
      ↔ works compute key = true
        ∧ key ∉ c.keys
        ∧ c.size = c.capacity
        ∧ dropped ∈ c.keys
        ∧ ∀ other ∈ c.keys, other ≠ dropped → AskedLater history dropped other := by
  obtain ⟨sound, keys, -⟩ := remembers
  have inOrder : c.keys.Pairwise fun newer older => AskedLater history older newer :=
    keys ▸ (pairwise_recent _ history).take
  have nodup : c.keys.Nodup := inOrder.imp fun later => later.ne.symm
  have bounded : c.keys.length ≤ c.capacity := by simp [keys]
  have sized : c.size = c.keys.length := by simp [size, Cache.keys]
  constructor
  · rintro ⟨held, gone⟩
    by_cases found : key ∈ c.keys
    · rw [keys_ask_of_mem sound found] at gone
      by_cases same : dropped = key
      · exact absurd (same ▸ List.mem_cons_self) gone
      · exact absurd (List.mem_cons_of_mem _ (List.mem_filter.mpr ⟨held, by simpa using same⟩)) gone
    · by_cases working : works compute key = true
      · rw [keys_ask_of_notMem sound working found,
          notMem_take_cons_iff nodup found bounded held, exists_concat_iff inOrder held] at gone
        exact ⟨working, found, sized.trans gone.1, held, gone.2⟩
      · rw [keys_ask_of_fails sound (Bool.eq_false_iff.mpr working)] at gone
        exact absurd held gone
  · rintro ⟨working, missing, full, held, later⟩
    refine ⟨held, ?_⟩
    rw [keys_ask_of_notMem sound working missing, notMem_take_cons_iff nodup missing bounded held,
      exists_concat_iff inOrder held]
    exact ⟨sized.symm.trans full, later⟩

-----------------------------------------------------------------------------------------
-- What is computed
-----------------------------------------------------------------------------------------

/-- All that is computed is counted, by induction over the questions. -/
theorem misses_afterAll (compute : κ → Except ε α) (c : Cache κ α) (history : List κ)
    : (c.afterAll compute history).misses = c.misses + (c.computed compute history).length := by
  induction history using List.reverseRecOn with
  | nil => rfl
  | append_singleton before key ih =>
      rw [afterAll_concat, misses_ask, computed_concat, List.length_append, ih, Nat.add_assoc]

/-- What fails is computed each time, by induction over the questions. -/
theorem filter_computed_of_fails (compute : κ → Except ε α) (n : Nat) (history : List κ)
    : ((ofCapacity n).computed compute history).filter (fun key => !works compute key)
      = history.filter fun key => !works compute key := by
  induction history using List.reverseRecOn with
  | nil => rfl
  | append_singleton before key ih =>
      by_cases found : key ∈ ((ofCapacity n).afterAll compute before).keys
      · have working := (remembers_afterAll compute n before).sound.works_of_mem found
        rw [computed_concat_of_mem found, ih]
        simp [working]
      · rw [computed_concat_of_notMem found, List.filter_append, List.filter_append, ih]

/-- As long as there is room for all keys that work, each of them is computed once, by induction over
the questions.
-/
theorem filter_computed_perm {n : Nat} (room : (recent (works compute) history).length ≤ n)
    : (((ofCapacity n).computed compute history).filter (works compute)).Perm
        (recent (works compute) history) := by
  induction history using List.reverseRecOn with
  | nil => exact .rfl
  | append_singleton before key ih =>
      have room' := (length_recent_le_concat (works compute) before key).trans room
      have ih := ih room'
      -- Nothing has been dropped, so a key that is not held is asked for the first time or fails.
      have keys : ((ofCapacity n).afterAll compute before).keys = recent (works compute) before := by
        rw [keys_afterAll, List.take_of_length_le room']
      by_cases found : key ∈ recent (works compute) before
      · rw [computed_concat_of_mem (keys ▸ found), recent_concat_of_valid (mem_recent.mp found).1]
        exact ih.trans (perm_front_of_mem (nodup_recent _ _) found).symm
      · rw [computed_concat_of_notMem (keys ▸ found), List.filter_append]
        cases working : works compute key with
        | false =>
            rw [recent_concat_of_invalid working, List.filter_singleton, working]
            simpa using ih
        | true =>
            rw [recent_concat_of_valid working, filter_ne_of_notMem found, List.filter_singleton,
              working]
            exact (List.perm_append_singleton key _).trans (ih.cons key)

/-- As long as there is room, every key that works and was asked for has been computed once. -/
theorem count_computed {n : Nat} (room : (recent (works compute) history).length ≤ n)
    (working : works compute key = true) (asked : key ∈ history)
    : ((ofCapacity n).computed compute history).count key = 1 := by
  rw [← List.count_filter working, (filter_computed_perm room).count_eq]
  exact List.count_eq_one_of_mem (nodup_recent _ _) (mem_recent.mpr ⟨working, asked⟩)

/-- As long as there is room, results are missed once for each key that works, and for each question
that fails.
-/
theorem misses_of_room {n : Nat} (room : (recent (works compute) history).length ≤ n)
    : ((ofCapacity n).afterAll compute history).misses
      = (history.filter (works compute)).toFinset.card
        + history.countP fun key => !works compute key := by
  rw [misses_afterAll, List.length_eq_length_filter_add (works compute),
    (filter_computed_perm room).length_eq, filter_computed_of_fails, length_recent,
    ← List.countP_eq_length_filter]
  exact Nat.zero_add _

end FeatureFlags.Cache
