import FeatureFlags.Proofs.Field.Checked
import FeatureFlags.Proofs.Rule.Verdict

/-! The order in which rules are tried, said about the list in which they were given: by priority,
and by their places where priorities are equal. A list that is given in another order leads to the
same rules as long as rules of equal priority keep their order.
-/

namespace FeatureFlags

namespace RuleList

/-- A place in a list of rules comes no later than another one: its rule has the lesser priority, or
an equal one and the lesser place.
-/
def Precedes (a b : Rule × Nat) : Prop :=
  a.1.priority < b.1.priority ∨ (a.1.priority = b.1.priority ∧ a.2 ≤ b.2)

/-- The rule stands at a place of the list, has a property, and comes before all others of the list
that have it.
-/
structure LeastAt (p : Rule → Prop) (given : List Rule) (i : Nat) (r : Rule) : Prop where
  found : given[i]? = some r
  holds : p r
  least : ∀ j other, given[j]? = some other → p other → Precedes (r, i) (other, j)

theorem Precedes.antisymm {a b : Rule × Nat} (forth : Precedes a b) (back : Precedes b a)
    : a.2 = b.2 := by
  unfold Precedes at forth back
  omega

theorem LeastAt.congr {p q : Rule → Prop} {given : List Rule} {i : Nat} {r : Rule}
    (same : ∀ r ∈ given, p r ↔ q r)
    : LeastAt p given i r ↔ LeastAt q given i r := by
  have member {j : Nat} {other : Rule} (found : given[j]? = some other) : other ∈ given :=
    List.mem_of_getElem? found
  constructor
  · rintro ⟨found, holds, least⟩
    exact ⟨found, (same r (member found)).mp holds, fun j other there having =>
      least j other there ((same other (member there)).mpr having)⟩
  · rintro ⟨found, holds, least⟩
    exact ⟨found, (same r (member found)).mpr holds, fun j other there having =>
      least j other there ((same other (member there)).mp having)⟩

-----------------------------------------------------------------------------------------
-- Rules with their places
-----------------------------------------------------------------------------------------

/-- The comparison by which rules are sorted. -/
def noLater (a b : Rule) : Bool := decide (a.priority ≤ b.priority)

theorem noLater_trans (a b c : Rule) (first : noLater a b = true) (second : noLater b c = true)
    : noLater a c = true := by
  simp only [noLater, decide_eq_true_eq] at *
  omega

theorem noLater_total (a b : Rule) : (noLater a b || noLater b a) = true := by
  simp only [noLater, Bool.or_eq_true, decide_eq_true_eq]
  omega

theorem zipIdxLE_iff (a b : Rule × Nat) : List.zipIdxLE noLater a b = true ↔ Precedes a b := by
  unfold List.zipIdxLE noLater Precedes
  by_cases forth : a.1.priority ≤ b.1.priority <;> by_cases back : b.1.priority ≤ a.1.priority <;>
    simp only [forth, back, decide_true, decide_false, if_true, if_false, Bool.false_eq_true,
      decide_eq_true_eq, false_iff, true_iff] <;>
    omega

/-- The rules of a list with their places, in the order in which they are tried. -/
def placed (given : List Rule) : List (Rule × Nat) :=
  given.zipIdx.mergeSort (List.zipIdxLE noLater)

/-- Rules in order are stored as they are. -/
theorem ofList_rules (l : RuleList) : ofList l.rules = l := by
  have sorted : l.rules.mergeSort (fun a b => decide (a.priority ≤ b.priority)) = l.rules :=
    List.mergeSort_of_pairwise (by simpa using l.ordered)
  cases l
  simp only [ofList, sorted]

/-- The stored rules are the given ones in the order of their places, since sorting is stable. -/
theorem rules_ofList (given : List Rule)
    : (ofList given).rules = (placed given).map Prod.fst :=
  List.mergeSort_zipIdx.symm

theorem pairwise_placed (given : List Rule) : (placed given).Pairwise Precedes :=
  (List.pairwise_mergeSort (List.zipIdxLE_trans noLater_trans)
    (List.zipIdxLE_total noLater_total) _).imp (fun {a b} => (zipIdxLE_iff a b).mp)

theorem mem_placed_iff (given : List Rule) (r : Rule) (i : Nat)
    : (r, i) ∈ placed given ↔ given[i]? = some r := by
  rw [placed, List.mem_mergeSort, List.mk_mem_zipIdx_iff_getElem?]

/-- The first of the stored rules with a property stands at the least place of the given list that
has it.
-/
theorem leastAt_of_find? {p : Rule → Bool} {given : List Rule} {r : Rule} {i : Nat}
    (found : (placed given).find? (p ∘ Prod.fst) = some (r, i))
    : LeastAt (fun r => p r = true) given i r := by
  obtain ⟨holds, before, after, split, skipped⟩ := List.find?_eq_some_iff_append.mp found
  have ordered := pairwise_placed given
  rw [split] at ordered
  refine ⟨?_, holds, ?_⟩
  · rw [← mem_placed_iff, split]
    simp
  · intro j other there having
    rw [← mem_placed_iff, split, List.mem_append, List.mem_cons] at there
    rcases there with earlier | same | later
    · have passed := skipped _ earlier
      simp [having] at passed
    · obtain ⟨rfl, rfl⟩ := Prod.mk.inj same
      exact Or.inr ⟨rfl, Nat.le_refl _⟩
    · exact (List.pairwise_cons.mp (List.pairwise_append.mp ordered).2.1).1 _ later

theorem find?_rules_eq_some_iff (p : Rule → Bool) (given : List Rule) (r : Rule)
    : (ofList given).rules.find? p = some r
      ↔ ∃ i, LeastAt (fun r => p r = true) given i r := by
  rw [rules_ofList, List.find?_map, Option.map_eq_some_iff]
  constructor
  · rintro ⟨⟨_, i⟩, found, rfl⟩
    exact ⟨i, leastAt_of_find? found⟩
  · rintro ⟨i, least⟩
    have reached : ((placed given).find? (p ∘ Prod.fst)).isSome = true := by
      rw [List.find?_isSome]
      exact ⟨(r, i), (mem_placed_iff given r i).mpr least.found, least.holds⟩
    obtain ⟨⟨other, j⟩, found⟩ := Option.isSome_iff_exists.mp reached
    have first := leastAt_of_find? found
    have place : j = i :=
      (first.least i r least.found least.holds).antisymm
        (least.least j other first.found first.holds)
    subst place
    refine ⟨(other, j), found, ?_⟩
    exact Option.some.inj (first.found.symm.trans least.found)

theorem find?_rules_eq_none_iff (p : Rule → Bool) (given : List Rule)
    : (ofList given).rules.find? p = none ↔ ∀ r ∈ given, p r = false := by
  simp [ofList, List.find?_eq_none]

-----------------------------------------------------------------------------------------
-- Other orders of the same rules
-----------------------------------------------------------------------------------------

/-- The rules of a list with one priority, in their order. -/
def ofPriority (priority : Int) (rules : List Rule) : List Rule :=
  rules.filter fun r => r.priority == priority

/-- Sorting keeps the order of rules of one priority. -/
theorem ofPriority_ofList (priority : Int) (given : List Rule)
    : ofPriority priority (ofList given).rules = ofPriority priority given := by
  have tied : (ofPriority priority given).Pairwise fun a b => noLater a b = true := by
    refine List.pairwise_of_forall_mem_list ?_
    intro a first b second
    simp only [ofPriority, List.mem_filter, beq_iff_eq] at first second
    simp only [noLater, decide_eq_true_eq]
    omega
  have kept : (ofPriority priority given).Sublist (ofList given).rules :=
    List.sublist_mergeSort noLater_trans noLater_total tied List.filter_sublist
  have within := kept.filter fun r => r.priority == priority
  rw [ofPriority, List.filter_filter] at within
  simp only [Bool.and_self] at within
  refine (within.eq_of_length ?_).symm
  exact ((List.mergeSort_perm given noLater).filter _).length_eq.symm

theorem mem_iff_of_ofPriority {rules others : List Rule}
    (same : ∀ priority, ofPriority priority rules = ofPriority priority others) (r : Rule)
    : r ∈ rules ↔ r ∈ others := by
  have tied := congrArg (r ∈ ·) (same r.priority)
  simpa [ofPriority] using tied

/-- Two sorted lists with the same rules of each priority are the same, by induction over both. -/
theorem eq_of_ofPriority_eq {rules others : List Rule}
    (ordered : rules.Pairwise fun a b => a.priority ≤ b.priority)
    (otherOrdered : others.Pairwise fun a b => a.priority ≤ b.priority)
    (same : ∀ priority, ofPriority priority rules = ofPriority priority others)
    : rules = others := by
  have mem_iff := mem_iff_of_ofPriority same
  induction rules generalizing others with
  | nil =>
      cases others with
      | nil => rfl
      | cons b rest => exact absurd ((mem_iff b).mpr List.mem_cons_self) List.not_mem_nil
  | cons a rest ih =>
      cases others with
      | nil => exact absurd ((mem_iff a).mp List.mem_cons_self) List.not_mem_nil
      | cons b others =>
          obtain ⟨aLeast, restOrdered⟩ := List.pairwise_cons.mp ordered
          obtain ⟨bLeast, othersOrdered⟩ := List.pairwise_cons.mp otherOrdered
          have level : a.priority = b.priority := by
            apply Int.le_antisymm
            · rcases List.mem_cons.mp ((mem_iff b).mpr List.mem_cons_self) with rfl | later
              · exact Int.le_refl _
              · exact aLeast b later
            · rcases List.mem_cons.mp ((mem_iff a).mp List.mem_cons_self) with rfl | later
              · exact Int.le_refl _
              · exact bLeast a later
          -- The heads are the first rules of their common priority.
          have heads := same a.priority
          simp only [ofPriority, List.filter_cons, beq_self_eq_true, if_true, ← level,
            List.cons.injEq] at heads
          obtain ⟨rfl, -⟩ := heads
          have tails (priority : Int) : ofPriority priority rest = ofPriority priority others := by
            have whole := same priority
            simp only [ofPriority, List.filter_cons] at whole
            split at whole
            · exact (List.cons.inj whole).2
            · exact whole
          rw [ih restOrdered othersOrdered tails (mem_iff_of_ofPriority tails)]

theorem ext_rules {l other : RuleList} (same : l.rules = other.rules) : l = other := by
  cases l
  cases other
  congr

/-- Rules are stored alike in whatever order they are given, as long as those of equal priority keep
theirs.
-/
theorem ofList_eq_of_ofPriority {given others : List Rule}
    (same : ∀ priority, ofPriority priority others = ofPriority priority given)
    : ofList others = ofList given := by
  refine ext_rules (eq_of_ofPriority_eq (ofList others).ordered (ofList given).ordered ?_)
  intro priority
  rw [ofPriority_ofList, ofPriority_ofList, same]

/-- Leaving out rules before or after sorting is the same. -/
theorem rules_ofList_filter (p : Rule → Bool) (given : List Rule)
    : (ofList (given.filter p)).rules = (ofList given).rules.filter p := by
  refine eq_of_ofPriority_eq (ofList _).ordered ((ofList given).ordered.sublist
    List.filter_sublist) ?_
  intro priority
  rw [ofPriority_ofList]
  have sorted := congrArg (List.filter p) (ofPriority_ofList priority given)
  simp only [ofPriority, List.filter_filter, Bool.and_comm] at sorted ⊢
  exact sorted.symm

-----------------------------------------------------------------------------------------
-- The choice among given rules
-----------------------------------------------------------------------------------------

section

variable (flagKey : String) (context : Context) (segments : SegmentMap)

/-- The choice among stored rules is the verdict of the rule at the least place that settles the
matter.
-/
theorem select_ofList_result {given : List Rule} {i : Nat} {r : Rule}
    (least : LeastAt (fun r => r.settles flagKey context segments = true) given i r)
    : (Rule.select flagKey context segments (ofList given).rules).result
      = r.verdict flagKey context segments := by
  rw [Rule.select_result, (find?_rules_eq_some_iff _ given r).mpr ⟨i, least⟩]
  rfl

theorem exists_leastAt_or_passed (given : List Rule)
    : (∃ i r, LeastAt (fun r => r.settles flagKey context segments = true) given i r)
      ∨ (∀ r ∈ given, r.settles flagKey context segments = false)
        ∧ (Rule.select flagKey context segments (ofList given).rules).result = .ok none := by
  cases found : (ofList given).rules.find? (Rule.settles flagKey context segments) with
  | some r =>
      obtain ⟨i, least⟩ := (find?_rules_eq_some_iff _ given r).mp found
      exact Or.inl ⟨i, r, least⟩
  | none =>
      refine Or.inr ⟨(find?_rules_eq_none_iff _ given).mp found, ?_⟩
      rw [Rule.select_result, found]
      rfl

/-- An outcome of the choice that some verdict has, other than passing over, is the verdict at the
least place that settles the matter.
-/
theorem select_ofList_eq_iff {given : List Rule}
    {outcome : Except Failure (Option Rule.Selection)} (settled : outcome ≠ .ok none)
    : (Rule.select flagKey context segments (ofList given).rules).result = outcome
      ↔ ∃ i r,
          LeastAt (fun r => r.settles flagKey context segments = true) given i r
          ∧ r.verdict flagKey context segments = outcome := by
  constructor
  · rintro rfl
    rcases exists_leastAt_or_passed flagKey context segments given with ⟨i, r, least⟩ | ⟨-, none⟩
    · exact ⟨i, r, least, (select_ofList_result flagKey context segments least).symm⟩
    · exact absurd none settled
  · rintro ⟨i, r, least, rfl⟩
    exact select_ofList_result flagKey context segments least

theorem select_ofList_eq_none_iff (given : List Rule)
    : (Rule.select flagKey context segments (ofList given).rules).result = .ok none
      ↔ ∀ r ∈ given, r.settles flagKey context segments = false := by
  constructor
  · intro passed
    rcases exists_leastAt_or_passed flagKey context segments given with
      ⟨i, r, least⟩ | ⟨unsettled, -⟩
    · rw [select_ofList_result flagKey context segments least,
        ← Rule.settles_eq_false_iff, least.holds] at passed
      contradiction
    · exact unsettled
  · intro unsettled
    rcases exists_leastAt_or_passed flagKey context segments given with ⟨i, r, least⟩ | ⟨-, none⟩
    · have passed := unsettled r (List.mem_of_getElem? least.found)
      rw [least.holds] at passed
      contradiction
    · exact none

end

end RuleList

end FeatureFlags
