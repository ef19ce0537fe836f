import FeatureFlags.Context.Basic
import FeatureFlags.Proofs.Flag.Variants
import FeatureFlags.Proofs.OrderedMap
import FeatureFlags.Proofs.Outcome
import FeatureFlags.Proofs.Snapshot.ReadBack

/-! How contexts come about from pairs of a name and a value. As long as the names are texts, the pairs
behave as a map that remembers the order of its keys, and a context is read from it value by value.
-/

namespace FeatureFlags

-----------------------------------------------------------------------------------------
-- Single attributes
-----------------------------------------------------------------------------------------

namespace Attribute

theorem normalize_eq_ok_iff {name x : Datum} {a : Attribute}
    : normalize name x = .ok a ↔ ofDatum? x = .ok (some a) := by
  unfold normalize
  cases ofDatum? x with
  | error e => simp [Bind.bind, Except.bind]
  | ok found =>
      cases found <;>
        simp [Bind.bind, Except.bind, Pure.pure, Except.pure, throw, throwThe, MonadExceptOf.throw]

theorem normalize_eq_error_iff {name x : Datum} {e : Failure}
    : normalize name x = .error e
      ↔ ofDatum? x = .error e
        ∨ ofDatum? x = .ok none ∧ e = .quoting [name, x] (unsupported name x) := by
  unfold normalize
  cases ofDatum? x with
  | error e' => simp [Bind.bind, Except.bind]
  | ok found =>
      cases found with
      | some a => simp [Bind.bind, Except.bind, Pure.pure, Except.pure]
      | none =>
          simp only [Bind.bind, Except.bind, throw, throwThe, MonadExceptOf.throw,
            Except.error.injEq, reduceCtorEq, true_and, false_or]
          exact eq_comm

/-- The value of the name is read as the attribute. -/
def IsRead (name : String) (x : Datum) (a : Attribute) : Prop := normalize (.text name) x = .ok a

/-- An attribute is what its loose data stand for. -/
theorem ofDatum?_loose (a : Attribute) : ofDatum? a.loose = .ok (some a) := by
  cases a with
  | texts set => simp [loose, ofDatum?, Datum.items?, textsOf?_texts, TextSet.ofList_elements]
  | bool b => rfl
  | number x => exact ofDatum?_datum (.number x)
  | text s => rfl

theorem isRead_loose (name : String) (a : Attribute) : IsRead name a.loose a :=
  normalize_eq_ok_iff.mpr a.ofDatum?_loose

end Attribute

-----------------------------------------------------------------------------------------
-- Pairs
-----------------------------------------------------------------------------------------

namespace Context

open OrderedMap (Matched)

/-- Pairs of a name and something else, the names as loose data. -/
def loosePairs {α : Type} (l : List (String × α)) : List (Datum × α) :=
  l.map fun e => (.text e.1, e.2)

theorem putPair_loosePairs {α : Type} (name : String) (x : α) (l : List (String × α))
    : putPair (.text name) x (loosePairs l) = loosePairs (OrderedMap.put name x l) := by
  induction l with
  | nil => rfl
  | cons entry rest ih =>
      obtain ⟨first, y⟩ := entry
      by_cases same : first = name
      · subst same
        simp [loosePairs, putPair, OrderedMap.put, Datum.sameKey_text]
      · simpa [loosePairs, putPair, OrderedMap.put, Datum.sameKey_text, same] using ih

/-- Pairs whose names are texts are put into a map one after the other, by list induction. -/
theorem foldl_putPair (l : List (String × Datum)) (m : OrderedMap String Datum)
    : (loosePairs l).foldl (fun all pair => putPair pair.1 pair.2 all) (loosePairs m.entries)
      = loosePairs (l.foldl (fun m e => m.insert e.1 e.2) m).entries := by
  induction l generalizing m with
  | nil => rfl
  | cons entry rest ih =>
      obtain ⟨name, x⟩ := entry
      change (loosePairs rest).foldl _ (putPair (.text name) x (loosePairs m.entries)) = _
      rw [putPair_loosePairs]
      exact ih (m.insert name x)

/-- Texts are hashable, so pairs whose names are texts are kept by name, by list induction. -/
theorem distinctPairs_loosePairs (l : List (String × Datum))
    : distinctPairs (loosePairs l) = .ok (loosePairs (OrderedMap.ofList l).entries) := by
  rw [OrderedMap.ofList, ← foldl_putPair, distinctPairs]
  change (loosePairs l).foldlM _ [] = Except.ok ((loosePairs l).foldl _ [])
  generalize [] = all
  induction l generalizing all with
  | nil => rfl
  | cons entry rest ih => exact ih (putPair (.text entry.1) entry.2 all)

-----------------------------------------------------------------------------------------
-- Attributes
-----------------------------------------------------------------------------------------

theorem attributesOf_loosePairs_cons (name : String) (x : Datum) (rest : List (String × Datum))
    : attributesOf (loosePairs ((name, x) :: rest))
      = (do
        let a ← Attribute.normalize (.text name) x
        let l ← attributesOf (loosePairs rest)
        return (name, a) :: l) :=
  rfl

/-- Attributes are read when each of them is, in their order and under their names, by list induction.
-/
theorem attributesOf_eq_ok_iff {l : List (String × Datum)} {l' : List (String × Attribute)}
    : attributesOf (loosePairs l) = .ok l' ↔ Matched Attribute.IsRead l l' := by
  induction l generalizing l' with
  | nil =>
      constructor
      · intro read
        obtain rfl := Except.ok.inj read
        exact .nil
      · rintro ⟨⟩
        rfl
  | cons entry rest ih =>
      obtain ⟨name, x⟩ := entry
      rw [attributesOf_loosePairs_cons]
      constructor
      · intro read
        obtain ⟨a, first, read⟩ := Outcome.bind_eq_ok.mp read
        obtain ⟨others, later, same⟩ := Outcome.bind_eq_ok.mp read
        obtain rfl := Except.ok.inj same
        exact .cons ⟨rfl, first⟩ (ih.mp later)
      · intro matched
        cases matched with
        | @cons _ e' _ others first later =>
            obtain ⟨_, a⟩ := e'
            obtain ⟨rfl, read⟩ := first
            exact Outcome.bind_eq_ok.mpr
              ⟨a, read, Outcome.bind_eq_ok.mpr ⟨others, ih.mpr later, rfl⟩⟩

/-- A context is read from a map exactly if it has an attribute for each value, in the same order. -/
theorem of_entries_eq_ok_iff {id : String} {m : OrderedMap String Datum} {c : Context}
    : of (.text id) (loosePairs m.entries) = .ok c
      ↔ c.entityId = id ∧ Matched Attribute.IsRead m.entries c.attributes.entries := by
  have distinct {l : List (String × Attribute)} (matched : Matched Attribute.IsRead m.entries l)
      : (l.map Prod.fst).Nodup :=
    matched.keys ▸ m.nodup
  constructor
  · intro made
    obtain ⟨_, named, made⟩ := Outcome.bind_eq_ok.mp made
    obtain rfl := Except.ok.inj named
    obtain ⟨l, read, same⟩ := Outcome.bind_eq_ok.mp made
    obtain rfl := Except.ok.inj same
    have matched := attributesOf_eq_ok_iff.mp read
    refine ⟨rfl, ?_⟩
    rw [OrderedMap.entries_ofList (distinct matched)]
    exact matched
  · rintro ⟨rfl, matched⟩
    refine Outcome.bind_eq_ok.mpr ⟨c.entityId, rfl, Outcome.bind_eq_ok.mpr ⟨c.attributes.entries,
      attributesOf_eq_ok_iff.mpr matched, ?_⟩⟩
    rw [OrderedMap.ofList_entries]
    rfl

/-- A context is read from pairs as from the map of them. -/
theorem ofPairs_loosePairs (id : Datum) (l : List (String × Datum))
    : ofPairs id (loosePairs l) = of id (loosePairs (OrderedMap.ofList l).entries) := by
  unfold ofPairs
  rw [distinctPairs_loosePairs]
  rfl

-----------------------------------------------------------------------------------------
-- Names
-----------------------------------------------------------------------------------------

theorem eq_text_of_sameKey {s : String} {x : Datum} (same : (Datum.text s).sameKey x = true)
    : x = .text s := by
  cases x <;> simp [Datum.sameKey, Datum.number?] at same
  rw [same]

/-- The pairs all have texts for names. -/
def Named (pairs : List (Datum × Datum)) : Prop := ∀ pair ∈ pairs, ∃ s, pair.1 = .text s

theorem Named.exists_loosePairs {pairs : List (Datum × Datum)} (named : Named pairs)
    : ∃ l, pairs = loosePairs l := by
  induction pairs with
  | nil => exact ⟨[], rfl⟩
  | cons pair rest ih =>
      obtain ⟨name, x⟩ := pair
      obtain ⟨⟨s, rfl⟩, later⟩ := List.forall_mem_cons.mp named
      obtain ⟨l, rfl⟩ := ih later
      exact ⟨(s, x) :: l, rfl⟩

/-- If all names are texts after a pair has been put among others, its own name is one and so are
theirs, by list induction.
-/
theorem Named.of_putPair {name x : Datum} {pairs : List (Datum × Datum)}
    (named : Named (putPair name x pairs))
    : (∃ s, name = .text s) ∧ Named pairs := by
  induction pairs with
  | nil => exact ⟨named _ List.mem_cons_self, by simp [Named]⟩
  | cons pair rest ih =>
      obtain ⟨n, v⟩ := pair
      unfold putPair at named
      split at named
      · next same =>
          obtain ⟨⟨s, text⟩, later⟩ := List.forall_mem_cons.mp named
          obtain rfl : n = .text s := text
          exact ⟨⟨s, eq_text_of_sameKey same⟩, List.forall_mem_cons.mpr ⟨⟨s, rfl⟩, later⟩⟩
      · obtain ⟨first, later⟩ := List.forall_mem_cons.mp named
        obtain ⟨text, others⟩ := ih later
        exact ⟨text, List.forall_mem_cons.mpr ⟨first, others⟩⟩

/-- If all names that are kept are texts, so are all names that were given, by list induction. -/
theorem named_of_distinctPairs {pairs kept : List (Datum × Datum)}
    (distinct : distinctPairs pairs = .ok kept) (named : Named kept)
    : Named pairs := by
  unfold distinctPairs at distinct
  generalize [] = all at distinct
  suffices both : Named all ∧ Named pairs from both.2
  induction pairs generalizing all with
  | nil =>
      obtain rfl := Except.ok.inj distinct
      exact ⟨named, by simp [Named]⟩
  | cons pair rest ih =>
      obtain ⟨next, first, later⟩ := Outcome.bind_eq_ok.mp distinct
      obtain ⟨before, others⟩ := ih next later
      dsimp only at first
      split at first
      · contradiction
      · obtain rfl := Except.ok.inj first
        obtain ⟨text, below⟩ := before.of_putPair
        exact ⟨below, List.forall_mem_cons.mpr ⟨text, others⟩⟩

theorem named_of_attributesOf {pairs : List (Datum × Datum)} {l : List (String × Attribute)}
    (read : attributesOf pairs = .ok l)
    : Named pairs := by
  induction pairs generalizing l with
  | nil => simp [Named]
  | cons pair rest ih =>
      obtain ⟨name, x⟩ := pair
      cases name with
      | text s =>
          obtain ⟨a, -, read⟩ := Outcome.bind_eq_ok.mp read
          obtain ⟨others, later, -⟩ := Outcome.bind_eq_ok.mp read
          exact List.forall_mem_cons.mpr ⟨⟨s, rfl⟩, ih later⟩
      | _ => contradiction

/-- Pairs make a context only if its id and all their names are texts. -/
theorem exists_of_ofPairs {entityId : Datum} {pairs : List (Datum × Datum)} {c : Context}
    (made : ofPairs entityId pairs = .ok c)
    : entityId = .text c.entityId
      ∧ ∃ l,
          pairs = loosePairs l
          ∧ Matched Attribute.IsRead (OrderedMap.ofList l).entries c.attributes.entries := by
  obtain ⟨kept, distinct, made'⟩ := Outcome.bind_eq_ok.mp made
  obtain ⟨id, text, made'⟩ := Outcome.bind_eq_ok.mp made'
  obtain ⟨l, read, -⟩ := Outcome.bind_eq_ok.mp made'
  obtain ⟨l, rfl⟩ :=
    (named_of_distinctPairs distinct (named_of_attributesOf read)).exists_loosePairs
  cases entityId with
  | text s =>
      rw [ofPairs_loosePairs] at made
      obtain ⟨rfl, matched⟩ := of_entries_eq_ok_iff.mp made
      exact ⟨rfl, l, rfl, matched⟩
  | _ => contradiction

/-- The attribute of a name is the one that was given under it. -/
theorem exists_get? {entityId : Datum} {pairs : List (Datum × Datum)} {context : Context}
    (made : of entityId pairs = .ok context) (distinct : (pairs.map Prod.fst).Nodup)
    {name : String} {x : Datum} (given : (.text name, x) ∈ pairs)
    : ∃ a, Attribute.ofDatum? x = .ok (some a) ∧ context.get? name = some a := by
  obtain ⟨id, -, made⟩ := Outcome.bind_eq_ok.mp made
  obtain ⟨l, read, made⟩ := Outcome.bind_eq_ok.mp made
  obtain rfl := Except.ok.inj made
  obtain ⟨given', rfl⟩ := (named_of_attributesOf read).exists_loosePairs
  have matched := attributesOf_eq_ok_iff.mp read
  have member : (name, x) ∈ given' := by simpa [loosePairs] using given
  have once : (given'.map Prod.fst).Nodup := by
    have texts : ((given'.map Prod.fst).map Datum.text).Nodup := by
      simpa [loosePairs, Function.comp_def] using distinct
    exact List.Pairwise.of_map Datum.text (fun a b apart same => apart (congrArg _ same)) texts
  obtain ⟨a, listed, accepted⟩ := matched.exists_of_mem member
  refine ⟨a, Attribute.normalize_eq_ok_iff.mp accepted, OrderedMap.get?_eq_some_iff.mpr ?_⟩
  rw [OrderedMap.entries_ofList (matched.keys ▸ once)]
  exact listed

end Context

end FeatureFlags
