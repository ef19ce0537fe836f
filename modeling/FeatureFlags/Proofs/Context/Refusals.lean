import FeatureFlags.Context.Builder
import FeatureFlags.Proofs.Condition.Numbers
import FeatureFlags.Proofs.Context.Replay
import FeatureFlags.Proofs.Datum.Digits
import FeatureFlags.Proofs.Field.Failures

/-! Values that are no attributes. They are refused with a fault that names the attribute, wherever they
are offered, with two exceptions that have to do with large integers: one that lies beyond all doubles
cannot be converted at all, and one with too many digits cannot be quoted by the fault.
-/

namespace FeatureFlags

-----------------------------------------------------------------------------------------
-- What is an attribute
-----------------------------------------------------------------------------------------

/-- The data stand for the attribute. -/
inductive Datum.StandsFor : Datum → Attribute → Prop
  | bool (b : Bool) : StandsFor (.bool b) (.bool b)
  | number {x : Datum} {v : Number} (represents : v.Represents x) : StandsFor x (.number v)
  | text (s : String) : StandsFor (.text s) (.text s)
  | texts {x : Datum} {l : List String} (members : x.items? = some (l.map .text))
    : StandsFor x (.texts (.ofList l))

namespace Attribute

theorem textsOf?_eq_some_iff {members : List Datum} {l : List String}
    : textsOf? members = some l ↔ members = l.map .text := by
  constructor
  · intro found
    induction members generalizing l with
    | nil =>
        obtain rfl := Option.some.inj found
        rfl
    | cons x rest ih =>
        cases x with
        | text s =>
            obtain ⟨others, later, rfl⟩ := Option.map_eq_some_iff.mp found
            rw [ih later]
            rfl
        | _ => contradiction
  · rintro rfl
    exact textsOf?_texts l

/-- Only an integer beyond all doubles has no answer to whether it is an attribute. -/
theorem ofDatum?_eq_error_iff {x : Datum} {e : Failure}
    : ofDatum? x = .error e
      ↔ e = .overflow ∧ ∃ n, x = .int n ∧ Double.Beyond n := by
  cases x with
  | int n =>
      simp only [← Double.ofInt?_eq_none_iff, ofDatum?]
      cases rounded : Double.ofInt? n with
      | none => simp [rounded, eq_comm]
      | some x => simp [rounded]
  | _ => simp [ofDatum?]

theorem ofDatum?_eq_some_iff {x : Datum} {a : Attribute}
    : ofDatum? x = .ok (some a) ↔ x.StandsFor a := by
  constructor
  · intro found
    cases x with
    | bool b => exact Option.some.inj (Except.ok.inj found) ▸ .bool b
    | text s => exact Option.some.inj (Except.ok.inj found) ▸ .text s
    | int n =>
        obtain ⟨v, rfl, represents⟩ := exists_number (.int n) found
        exact .number represents
    | double x =>
        obtain ⟨v, rfl, represents⟩ := exists_number (.double x) found
        exact .number represents
    | list members | tuple members | set members =>
        obtain ⟨l, texts, rfl⟩ := Option.map_eq_some_iff.mp (Except.ok.inj found)
        exact .texts (congrArg some (textsOf?_eq_some_iff.mp texts))
    | _ => simp [ofDatum?, Datum.items?] at found
  · intro stands
    cases stands with
    | bool b => rfl
    | text s => rfl
    | number represents =>
        cases represents with
        | int rounded => simp [ofDatum?, rounded, Number.of?_value]
        | double => simp [ofDatum?, Number.of?_value]
    | @texts x l members =>
        cases x <;> simp [Datum.items?] at members
        all_goals simp [ofDatum?, Datum.items?, members, textsOf?_texts]

end Attribute

-----------------------------------------------------------------------------------------
-- Integers with too many digits
-----------------------------------------------------------------------------------------

namespace Datum

/-- A value is overlong if one within it is, by cases on the step that leads there. -/
theorem isOverlong_of_within {step : Step} {x y : Datum} (member : y ∈ x.within step)
    (long : y.isOverlong = true)
    : x.isOverlong = true := by
  have listed {members : List Datum} (among : y ∈ members)
      : (Datum.list members).isOverlong = true :=
    isOverlong_list_iff.mpr ⟨y, among, long⟩
  have named {entries : List (String × Datum)} {name : String} (among : (name, y) ∈ entries)
      : (Datum.record entries).isOverlong = true :=
    isOverlong_record_iff.mpr ⟨(name, y), among, long⟩
  cases step with
  | field name =>
      cases x with
      | record entries =>
          have found : entries.lookup name = some y := by simpa [within, get?] using member
          exact named (mem_of_lookup found)
      | _ => simp [within, get?] at member
  | items => cases x <;> simp [within, items?] at member <;> exact listed member
  | values =>
      cases x with
      | record entries =>
          obtain ⟨⟨name, value⟩, stored, rfl⟩ := List.mem_map.mp member
          exact named stored
      | _ => simp [within] at member

/-- An integer with too many digits makes every value overlong in which it stands, by induction over the
path.
-/
theorem isOverlong_of_at {path : List Step} {x : Datum} {n : Int} (way : At path x (.int n))
    (long : 10 ^ mostDigits ≤ n.natAbs)
    : x.isOverlong = true := by
  induction path generalizing x with
  | nil =>
      obtain rfl : x = .int n := way
      exact isOverlong_int_iff.mpr long
  | cons step rest ih =>
      obtain ⟨y, member, further⟩ := way
      exact isOverlong_of_within member (ih further)

/-- In an overlong value stands an integer with too many digits, by induction over the value. -/
theorem exists_of_isOverlong (x : Datum) (long : x.isOverlong = true)
    : ∃ path n, At path x (.int n) ∧ 10 ^ mostDigits ≤ n.natAbs := by
  cases x with
  | int n => exact ⟨[], n, rfl, isOverlong_int_iff.mp long⟩
  | list members | tuple members | set members =>
      obtain ⟨y, member, within⟩ := isOverlong_list_iff.mp long
      have smaller := List.sizeOf_lt_of_mem member
      obtain ⟨path, n, way, large⟩ := exists_of_isOverlong y within
      exact ⟨.items :: path, n, ⟨y, member, way⟩, large⟩
  | record entries =>
      obtain ⟨e, listed, within⟩ := isOverlong_record_iff.mp long
      have smaller := List.sizeOf_lt_of_mem listed
      have inner : sizeOf e.2 < sizeOf e := by
        cases e
        simp
      obtain ⟨path, n, way, large⟩ := exists_of_isOverlong e.2 within
      exact ⟨.values :: path, n, ⟨e.2, List.mem_map.mpr ⟨e, listed, rfl⟩, way⟩, large⟩
  | _ => simp [isOverlong] at long
termination_by sizeOf x
decreasing_by
  all_goals subst_vars
  all_goals simp
  all_goals omega

end Datum

-----------------------------------------------------------------------------------------
-- What is refused
-----------------------------------------------------------------------------------------

namespace Attribute

/-- The data are no attribute, and something else happens than that they are refused: an integer beyond
all doubles cannot be converted, and other data cannot be quoted if an integer with too many digits
stands in them.
-/
inductive Escapes : Datum → Failure → Prop
  | beyond {n : Int} (large : Double.Beyond n) : Escapes (.int n) .overflow
  | overlong {x : Datum} {path : List Datum.Step} {n : Int} (inner : path ≠ [])
    (way : Datum.At path x (.int n)) (long : 10 ^ Datum.mostDigits ≤ n.natAbs)
    : Escapes x .tooManyDigits

theorem not_at_text {path : List Datum.Step} {s : String} {n : Int}
    : ¬ Datum.At path (.text s) (.int n) := by
  cases path with
  | nil => simp [Datum.At]
  | cons step rest =>
      rintro ⟨y, member, -⟩
      cases step <;> simp [Datum.within, Datum.get?, Datum.items?] at member

/-- Data in which an integer stands are no attribute: neither is a record, and in a list of texts there
are no integers.
-/
theorem ofDatum?_of_at {path : List Datum.Step} {x : Datum} {n : Int} (inner : path ≠ [])
    (way : Datum.At path x (.int n))
    : ofDatum? x = .ok none := by
  cases path with
  | nil => exact absurd rfl inner
  | cons step rest =>
      obtain ⟨y, member, further⟩ := way
      have mixed {members : List Datum} (among : y ∈ members) : textsOf? members = none := by
        rw [Option.eq_none_iff_forall_ne_some]
        intro l found
        rw [textsOf?_eq_some_iff] at found
        obtain ⟨s, -, rfl⟩ := List.mem_map.mp (found ▸ among)
        exact not_at_text further
      cases step with
      | items =>
          cases x <;> simp [Datum.within, Datum.items?] at member
          all_goals simp [ofDatum?, Datum.items?, mixed member]
      | field name =>
          cases x <;> simp [Datum.within, Datum.get?] at member
          rfl
      | values =>
          cases x <;> simp [Datum.within] at member
          rfl

theorem beyond_of_overlong {n : Int} (long : 10 ^ Datum.mostDigits ≤ n.natAbs)
    : Double.Beyond n := by
  have longer (k digits : Nat) (enough : k ≤ digits) : 2 ^ k ≤ 10 ^ digits :=
    (Nat.pow_le_pow_left (by decide) k).trans (Nat.pow_le_pow_right (by decide) enough)
  exact (Nat.sub_le _ _).trans ((longer 1024 Datum.mostDigits (by decide)).trans long)

/-- Data that are no attribute escape exactly if they are overlong. An integer with too many digits lies
beyond all doubles, so that no integer is among them.
-/
theorem escapes_iff_of_none {x : Datum} {e : Failure} (none : ofDatum? x = .ok none)
    : Escapes x e ↔ e = .tooManyDigits ∧ x.isOverlong = true := by
  have bounded {n : Int} (large : Double.Beyond n) : x ≠ .int n := by
    rintro rfl
    rw [ofDatum?_eq_error_iff.mpr ⟨rfl, n, rfl, large⟩] at none
    simp at none
  constructor
  · intro escapes
    cases escapes with
    | beyond large => exact absurd rfl (bounded large)
    | overlong inner way long => exact ⟨rfl, Datum.isOverlong_of_at way long⟩
  · rintro ⟨rfl, overlong⟩
    obtain ⟨path, n, way, long⟩ := Datum.exists_of_isOverlong x overlong
    refine .overlong ?_ way long
    rintro rfl
    exact bounded (beyond_of_overlong long) way

/-- The name is a text and can be quoted in any case. -/
theorem quoting_text (name : String) (x : Datum) (fault : Fault)
    : Failure.quoting [.text name, x] fault
      = if x.isOverlong then .tooManyDigits else .fault fault := by
  simp [Failure.quoting, Datum.isOverlong]

theorem normalize_eq_ok_iff_standsFor {name x : Datum} {a : Attribute}
    : normalize name x = .ok a ↔ x.StandsFor a :=
  normalize_eq_ok_iff.trans ofDatum?_eq_some_iff

theorem Escapes.normalize {x : Datum} {e : Failure} (escapes : Escapes x e) (name : String)
    : normalize (.text name) x = .error e := by
  rw [normalize_eq_error_iff, quoting_text]
  cases escapes with
  | beyond large => exact .inl (ofDatum?_eq_error_iff.mpr ⟨rfl, _, rfl, large⟩)
  | overlong inner way long =>
      rw [if_pos (Datum.isOverlong_of_at way long)]
      exact .inr ⟨ofDatum?_of_at inner way, rfl⟩

/-- A value is not normalized either because it escapes, or because it is refused with a fault. -/
theorem escapes_or_refused {name : String} {x : Datum} {e : Failure}
    (failed : Attribute.normalize (.text name) x = .error e)
    : Escapes x e ∨ e = .fault (unsupported (.text name) x) := by
  rw [normalize_eq_error_iff, quoting_text] at failed
  rcases failed with failed | ⟨none, rfl⟩
  · obtain ⟨rfl, n, rfl, large⟩ := ofDatum?_eq_error_iff.mp failed
    exact .inl (.beyond large)
  · cases long : x.isOverlong with
    | true => exact .inl ((escapes_iff_of_none none).mpr ⟨rfl, long⟩)
    | false => exact .inr rfl

/-- Data that are no attribute are refused with a fault, unless they escape. -/
theorem normalize_eq_error_iff_refused {name : String} {x : Datum} {e : Failure}
    : Attribute.normalize (.text name) x = .error e
      ↔ Escapes x e
        ∨ (∀ a, ¬ x.StandsFor a)
          ∧ (∀ e', ¬ Escapes x e')
          ∧ e = .fault (unsupported (.text name) x) := by
  constructor
  · intro failed
    have unread (a : Attribute) : ¬ x.StandsFor a := by
      rw [← @normalize_eq_ok_iff_standsFor (.text name), failed]
      simp
    by_cases tame : ∀ e', ¬ Escapes x e'
    · have refused := (escapes_or_refused failed).resolve_left (tame e)
      exact .inr ⟨unread, tame, refused⟩
    · obtain ⟨e', escapes⟩ := not_forall_not.mp tame
      rw [escapes.normalize name] at failed
      exact .inl (Except.error.inj failed ▸ escapes)
  · rintro (escapes | ⟨unread, tame, rfl⟩)
    · exact escapes.normalize name
    · cases outcome : Attribute.normalize (.text name) x with
      | ok a => exact absurd (normalize_eq_ok_iff_standsFor.mp outcome) (unread a)
      | error e => rw [(escapes_or_refused outcome).resolve_left (tame e)]

end Attribute

-----------------------------------------------------------------------------------------
-- Contexts and builders
-----------------------------------------------------------------------------------------

namespace Context

/-- The first of the values that cannot be normalized fails in this way. -/
def FirstFails (l : List (String × Datum)) (e : Failure) : Prop :=
  ∃ before name x after,
    l = before ++ (name, x) :: after
    ∧ (∀ pair ∈ before, ∃ a, pair.2.StandsFor a)
    ∧ Attribute.normalize (.text name) x = .error e

theorem firstFails_cons {name : String} {x : Datum} {rest : List (String × Datum)} {e : Failure}
    : FirstFails ((name, x) :: rest) e
      ↔ Attribute.normalize (.text name) x = .error e
        ∨ (∃ a, Attribute.normalize (.text name) x = .ok a) ∧ FirstFails rest e := by
  simp only [Attribute.normalize_eq_ok_iff_standsFor]
  constructor
  · rintro ⟨before, name', y, after, split, passed, failed⟩
    cases before with
    | nil =>
        obtain ⟨⟨⟩, rfl⟩ := List.cons.inj split
        exact .inl failed
    | cons pair before =>
        obtain ⟨rfl, rfl⟩ := List.cons.inj split
        obtain ⟨first, later⟩ := List.forall_mem_cons.mp passed
        exact .inr ⟨first, before, name', y, after, rfl, later, failed⟩
  · rintro (failed | ⟨first, before, name', y, after, rfl, passed, failed⟩)
    · exact ⟨[], name, x, rest, rfl, by simp, failed⟩
    · exact ⟨(name, x) :: before, name', y, after, rfl, List.forall_mem_cons.mpr ⟨first, passed⟩,
        failed⟩

theorem not_firstFails_nil (e : Failure) : ¬ FirstFails [] e := by
  rintro ⟨before, name, x, after, split, -⟩
  simp at split

/-- Reading attributes fails as the first value does that cannot be normalized, by list induction. -/
theorem attributesOf_eq_error_iff {l : List (String × Datum)} {e : Failure}
    : attributesOf (loosePairs l) = .error e ↔ FirstFails l e := by
  induction l with
  | nil => simp [not_firstFails_nil, loosePairs, attributesOf]
  | cons pair rest ih =>
      obtain ⟨name, x⟩ := pair
      rw [firstFails_cons, attributesOf_loosePairs_cons, Outcome.bind_eq_error]
      simp [Outcome.bind_eq_error, ih, Pure.pure, Except.pure]

theorem of_eq_error_iff {id : String} {l : List (String × Datum)} {e : Failure}
    : of (.text id) (loosePairs l) = .error e ↔ FirstFails l e := by
  rw [← attributesOf_eq_error_iff]
  change (attributesOf (loosePairs l) >>= fun a => pure _) = _ ↔ _
  simp [Outcome.bind_eq_error, Pure.pure, Except.pure]

namespace Builder

theorem add_eq_error_iff {b : Builder} {name : String} {x : Datum} {e : Failure}
    : b.add (.text name) x = .error e ↔ Attribute.normalize (.text name) x = .error e := by
  change (Attribute.normalize (.text name) x >>= fun a => pure _) = _ ↔ _
  simp [Outcome.bind_eq_error, Pure.pure, Except.pure]

/-- Adding attributes fails as the first value does that cannot be normalized, by list induction. -/
theorem addAll_eq_some_iff {b : Builder} {l : List (String × Datum)} {e : Failure}
    : (b.addAll (loosePairs l)).2 = some e ↔ FirstFails l e := by
  induction l generalizing b with
  | nil => simp [not_firstFails_nil, loosePairs, addAll]
  | cons pair rest ih =>
      obtain ⟨name, x⟩ := pair
      rw [firstFails_cons, addAll_cons]
      cases read : Attribute.normalize (.text name) x with
      | ok a =>
          obtain ⟨next, added⟩ : ∃ next, b.add (.text name) x = .ok next :=
            ⟨_, Outcome.bind_eq_ok.mpr ⟨a, read, rfl⟩⟩
          simp [added, ih]
      | error e' => simp [add_eq_error_iff.mpr read]

theorem settle_eq_error_iff {b : Builder} {name : String} {x : Datum} {e : Failure}
    : (b.settle (b.add (.text name) x)).2 = .error e ↔ FirstFails [(name, x)] e := by
  rw [firstFails_cons, ← add_eq_error_iff (b := b)]
  cases b.add (.text name) x <;> simp [settle, not_firstFails_nil]

/-- A call fails as the first value does that it offers and that cannot be normalized, by cases on the
call. Whatever is held can be built.
-/
theorem Holds.perform_eq_error_iff {b : Builder} {id : String} {pairs : List (String × Datum)}
    (holds : b.Holds id pairs) (call : Call) {e : Failure}
    : (b.perform call).2 = .error e ↔ FirstFails call.offered e := by
  cases call with
  | entity next => exact iff_of_false (by simp [Builder.perform]) (not_firstFails_nil e)
  | add name value => exact settle_eq_error_iff
  | email value => exact settle_eq_error_iff
  | plan value => exact settle_eq_error_iff
  | country value => exact settle_eq_error_iff
  | addAll l =>
      rw [Call.offered, ← addAll_eq_some_iff (b := b), Builder.perform]
      split
      · next added => simp [added]
      · next added => simp [added]
  | build =>
      obtain ⟨c, built, -⟩ := holds.build
      exact iff_of_false (by simp [Builder.perform, built, Except.map]) (not_firstFails_nil e)

end Builder

end Context

/-- What is offered as an attribute is normalized or refused with a fault that names it, unless an
integer is too large: one that lies beyond all doubles has no answer at all, and one with too many
digits keeps the value in which it stands from being quoted. Contexts, whether they are made of maps
or of pairs, and all calls on builders fail exactly as the first value does that cannot be normalized, so
what a builder holds can always be built.
-/
theorem attributesNormalizedOrRefused (id name : String) (x : Datum)
    (m : OrderedMap String Datum) (l : List (String × Datum))
    (calls : List Context.Builder.Call) (call : Context.Builder.Call)
    : (∀ a, Attribute.ofDatum? x = .ok (some a) ↔ x.StandsFor a)
      ∧ (∀ e,
          Attribute.ofDatum? x = .error e
          ↔ e = .overflow ∧ ∃ n, x = .int n ∧ Double.Beyond n)
      ∧ (∀ a, Attribute.normalize (.text name) x = .ok a ↔ x.StandsFor a)
      ∧ (∀ e,
          Attribute.normalize (.text name) x = .error e
          ↔ Attribute.Escapes x e
            ∨ (∀ a, ¬ x.StandsFor a)
              ∧ (∀ e', ¬ Attribute.Escapes x e')
              ∧ e = .fault (Attribute.unsupported (.text name) x))
      ∧ (Attribute.unsupported (.text name) x).kind = .invalidAttribute
      ∧ (∀ e,
          Context.of (.text id) (Context.loosePairs m.entries) = .error e
          ↔ Context.FirstFails m.entries e)
      ∧ (∀ e,
          Context.ofPairs (.text id) (Context.loosePairs l) = .error e
          ↔ Context.FirstFails (OrderedMap.ofList l).entries e)
      ∧ ∀ e,
          (((Context.Builder.start (.text id)).run calls).1.perform call).2 = .error e
          ↔ Context.FirstFails call.offered e := by
  refine ⟨fun a => Attribute.ofDatum?_eq_some_iff, fun e => Attribute.ofDatum?_eq_error_iff,
    fun a => Attribute.normalize_eq_ok_iff_standsFor,
    fun e => Attribute.normalize_eq_error_iff_refused, rfl, fun e => Context.of_eq_error_iff, ?_,
    fun e => ((Context.Builder.holds_start id).run calls).perform_eq_error_iff call⟩
  intro e
  rw [Context.ofPairs_loosePairs]
  exact Context.of_eq_error_iff

namespace Sample

/-- An age beyond all doubles. -/
def eternal : Datum := .int (10 ^ 400 : Nat)

/-- An integer that cannot be written out, in a list. -/
def unwritten : Datum := .list [.int (10 ^ Datum.mostDigits : Nat)]

end Sample

/-- Neither an integer beyond all doubles nor a list that cannot be quoted is refused with a fault. -/
theorem two_values_are_not_refused
    : Attribute.ofDatum? Sample.eternal = .error .overflow
      ∧ Context.of (.text "user") [(.text "age", Sample.eternal)] = .error .overflow
      ∧ Context.ofPairs (.text "user") [(.text "age", Sample.eternal)] = .error .overflow
      ∧ (Context.Builder.start (.text "user")).add (.text "age") Sample.eternal
        = .error .overflow
      ∧ Context.of (.text "user") [(.text "tags", Sample.unwritten)] = .error .tooManyDigits := by
  have beyond : Double.Beyond (10 ^ 400 : Nat) := by
    unfold Double.Beyond
    decide +kernel
  have escapes : Attribute.Escapes Sample.eternal .overflow := .beyond beyond
  have escapes' : Attribute.Escapes Sample.unwritten .tooManyDigits :=
    .overlong (List.cons_ne_nil .items []) ⟨_, List.mem_singleton_self _, rfl⟩
      (Int.natAbs_natCast _).ge
  have fails {e : Failure} (name : String) {x : Datum} (escapes : Attribute.Escapes x e)
      : Context.of (.text "user") (Context.loosePairs [(name, x)]) = .error e :=
    Context.of_eq_error_iff.mpr ⟨[], name, x, [], rfl, by simp, escapes.normalize name⟩
  refine ⟨Attribute.ofDatum?_eq_error_iff.mpr ⟨rfl, _, rfl, beyond⟩, fails "age" escapes, ?_, ?_,
    fails "tags" escapes'⟩
  · exact (Context.ofPairs_loosePairs _ [("age", Sample.eternal)]).trans (fails "age" escapes)
  · exact Context.Builder.add_eq_error_iff.mpr (escapes.normalize "age")

end FeatureFlags
