import FeatureFlags.Proofs.Context.Reading

/-! Contexts on top of each other. A context that was read once is read again unchanged, so putting two
of them together as loose data cannot fail, and it is the same as putting together their attributes.
Contexts form a monoid in this way, onto which lists of pairs are mapped.
-/

namespace FeatureFlags

namespace Context

open OrderedMap (Matched)

variable {c other top : Context}

theorem ext_parts (id : c.entityId = other.entityId) (attributes : c.attributes = other.attributes)
    : c = other := by
  cases c
  cases other
  congr

-----------------------------------------------------------------------------------------
-- Contexts as loose data
-----------------------------------------------------------------------------------------

/-- The attributes of a context as loose data, in their order. -/
def loose (c : Context) : List (Datum × Datum) :=
  loosePairs (c.attributes.mapValues Attribute.loose).entries

/-- The attributes of a context are read from their loose data. -/
theorem matched_loose (c : Context)
    : Matched Attribute.IsRead (c.attributes.mapValues Attribute.loose).entries
        c.attributes.entries :=
  List.forall₂_map_left_iff.mpr
    (List.forall₂_same.mpr fun entry _ => ⟨rfl, Attribute.isRead_loose entry.1 entry.2⟩)

/-- A context is read from its own loose data. -/
theorem of_loose (c : Context) : of (.text c.entityId) c.loose = .ok c :=
  of_entries_eq_ok_iff.mpr ⟨rfl, c.matched_loose⟩

/-- The context that is read when the loose data of one context are put on top of those of another
one. The other id wins unless it is empty.
-/
def mergeLoose (c other : Context) : Except Failure Context :=
  of (.text (if other.entityId = "" then c.entityId else other.entityId))
    (other.loose.foldl (fun all pair => putPair pair.1 pair.2 all) c.loose)

/-- Contexts can be put on top of each other as loose data, which is the same as doing so with their
attributes.
-/
theorem mergeLoose_eq (c other : Context) : c.mergeLoose other = .ok (c.merge other) := by
  unfold mergeLoose loose
  rw [foldl_putPair]
  exact of_entries_eq_ok_iff.mpr ⟨rfl, other.matched_loose.foldl_insert c.matched_loose⟩

-----------------------------------------------------------------------------------------
-- The monoid of contexts
-----------------------------------------------------------------------------------------

theorem merge_assoc (c other top : Context)
    : (c.merge other).merge top = c.merge (other.merge top) := by
  apply ext_parts
  · -- The rightmost id that is not empty wins either way.
    by_cases last : top.entityId = "" <;> simp [merge, last]
  · exact OrderedMap.union_assoc c.attributes other.attributes top.attributes

theorem empty_merge (c : Context) : empty.merge c = c := by
  apply ext_parts
  · by_cases none : c.entityId = "" <;> simp [merge, empty, none]
  · exact OrderedMap.empty_union c.attributes

theorem merge_empty (c : Context) : c.merge empty = c := rfl

/-- Pairs behind others make the context on top, if each of the two lists makes a context. -/
theorem ofPairs_append {entityId : Datum} {pairs others : List (Datum × Datum)}
    (made : ofPairs entityId pairs = .ok c) (above : ofPairs (.text "") others = .ok top)
    : ofPairs entityId (pairs ++ others) = .ok (c.merge top) := by
  obtain ⟨rfl, l, rfl, matched⟩ := exists_of_ofPairs made
  obtain ⟨id, l', rfl, matched'⟩ := exists_of_ofPairs above
  have none : top.entityId = "" := (Datum.text.inj id).symm
  have joined : loosePairs l ++ loosePairs l' = loosePairs (l ++ l') := List.map_append.symm
  rw [joined, ofPairs_loosePairs, OrderedMap.ofList_append]
  refine of_entries_eq_ok_iff.mpr ⟨?_, matched'.foldl_insert matched⟩
  simp [merge, none]

end Context

/-- Contexts form a monoid. Putting one on top of another never fails; it is associative, and the
context without id and attributes is its unit on both sides. What has been normalized is normalized
already, so that a context is read again from its own attributes. Joined lists of pairs make the
context of the first list with that of the second one on top of it, with the attributes in the same
order.
-/
theorem contextsFormMonoid
    : (∀ c top : Context, c.mergeLoose top = .ok (c.merge top))
      ∧ (∀ c other top : Context, (c.merge other).merge top = c.merge (other.merge top))
      ∧ (∀ c : Context, Context.empty.merge c = c ∧ c.merge Context.empty = c)
      ∧ (∀ name x a,
          Attribute.normalize name x = .ok a → Attribute.normalize name a.loose = .ok a)
      ∧ (∀ c : Context, Context.of (.text c.entityId) c.loose = .ok c)
      ∧ (∀ entityId pairs others c top,
          Context.ofPairs entityId pairs = .ok c
          → Context.ofPairs (.text "") others = .ok top
          → Context.ofPairs entityId (pairs ++ others) = .ok (c.merge top)) := by
  refine ⟨Context.mergeLoose_eq, Context.merge_assoc, ?_, ?_, Context.of_loose, ?_⟩
  · exact fun c => ⟨c.empty_merge, c.merge_empty⟩
  · exact fun name x a _ => Attribute.normalize_eq_ok_iff.mpr a.ofDatum?_loose
  · exact fun entityId pairs others c top => Context.ofPairs_append

namespace Sample

/-- What is known about someone, with a value that is given twice. -/
def known : List (Datum × Datum) :=
  [(.text "plan", .null), (.text "age", .int 41), (.text "plan", .text "free")]

/-- What a request adds. -/
def added : List (Datum × Datum) :=
  [(.text "country", .text "FR"), (.text "plan", .text "pro"), (.text "country", .text "BE")]

end Sample

/-- What a request adds takes the place of what was known, and new names come last. -/
theorem sample_request_is_put_on_top
    : ∃ c top,
        Context.ofPairs (.text "user") Sample.known = .ok c
        ∧ Context.ofPairs (.text "") Sample.added = .ok top
        ∧ Context.ofPairs (.text "user") (Sample.known ++ Sample.added) = .ok (c.merge top)
        ∧ (c.merge top).attributes.keys = ["plan", "age", "country"]
        ∧ (c.merge top).get? "plan" = some (.text "pro") := by
  obtain ⟨c, made⟩ : ∃ c, Context.ofPairs (.text "user") Sample.known = .ok c :=
    Outcome.exists_of_isOk (by decide +kernel)
  obtain ⟨top, above⟩ : ∃ top, Context.ofPairs (.text "") Sample.added = .ok top :=
    Outcome.exists_of_isOk (by decide +kernel)
  obtain ⟨-, -, -, -, -, joined⟩ := contextsFormMonoid
  have both := joined _ _ _ _ _ made above
  have reached
      : (Context.ofPairs (.text "user") (Sample.known ++ Sample.added)).toOption.map
          (fun c => (c.attributes.keys, c.get? "plan"))
        = some (["plan", "age", "country"], some (.text "pro")) := by
    decide +kernel
  rw [both] at reached
  obtain ⟨keys, plan⟩ := Prod.mk.inj (Option.some.inj reached)
  exact ⟨c, top, made, above, both, keys, plan⟩

end FeatureFlags
