import FeatureFlags.Proofs.Field.Checked
import FeatureFlags.Proofs.OrderedMap
import Mathlib.Data.List.Forall2
import Mathlib.Data.List.Perm.Basic
import Mathlib.Data.Option.Basic

/-! Documents that say the same in another order. A value may be given otherwise than in another
document: some of its fields vary, or its items change their order. What readers make of it is the
same where they do not look at the order, and they refuse both values or neither; but the issues
that they report of refused values may come in another order.
-/

namespace FeatureFlags

open List (Forall₂ Perm)

-----------------------------------------------------------------------------------------
-- Values that vary
-----------------------------------------------------------------------------------------

namespace Datum

/-- How a value may be given otherwise. -/
abbrev Variation := Datum → Datum → Prop

/-- Entries of one name, with a value that is the same or varies as fields of the name may. -/
def EntryVaries (fields : List (String × Variation)) (e f : String × Datum) : Prop :=
  f.1 = e.1 ∧ (f.2 = e.2 ∨ ∃ variation, (e.1, variation) ∈ fields ∧ variation e.2 f.2)

theorem EntryVaries.same {fields : List (String × Variation)} {e : String × Datum}
    : EntryVaries fields e e :=
  ⟨rfl, .inl rfl⟩

theorem EntryVaries.varied {fields : List (String × Variation)} {name : String} {x y : Datum}
    {variation : Variation} (member : (name, variation) ∈ fields) (value : variation x y)
    : EntryVaries fields (name, x) (name, y) :=
  ⟨rfl, .inr ⟨variation, member, value⟩⟩

/-- Some fields of a record vary. -/
inductive Fieldwise (fields : List (String × Variation)) : Variation
  | same (x : Datum) : Fieldwise fields x x
  | record {l m} (each : Forall₂ (EntryVaries fields) l m) : Fieldwise fields (.record l) (.record m)

/-- The items of a sequence vary, and afterwards their order changes. -/
inductive Sequenced (item : Variation) (order : List Datum → List Datum → Prop) : Variation
  | same (x : Datum) : Sequenced item order x x
  | items {x y l m n} (given : x.items? = some l) (varied : y.items? = some n)
    (each : Forall₂ item l m) (ordered : order m n)
    : Sequenced item order x y

/-- Entries of one name, of which the value varies. -/
def ValueVaries (value : Variation) (e f : String × Datum) : Prop := f.1 = e.1 ∧ value e.2 f.2

theorem ValueVaries.of {value : Variation} {name : String} {x y : Datum} (varied : value x y)
    : ValueVaries value (name, x) (name, y) :=
  ⟨rfl, varied⟩

/-- The values of a mapping vary, and afterwards the order of its names changes; no name comes twice.
-/
inductive Mapped (value : Variation) : Variation
  | same (x : Datum) : Mapped value x x
  | record {l m n} (names : (n.map Prod.fst).Nodup)
    (each : Forall₂ (ValueVaries value) l m) (ordered : m.Perm n)
    : Mapped value (.record l) (.record n)

variable {fields : List (String × Variation)} {l m : List (String × Datum)}

/-- Varied fields are found under the same names, by list induction. -/
theorem lookup_of_varied (each : Forall₂ (EntryVaries fields) l m) (name : String)
    : Option.Rel (fun x y => y = x ∨ ∃ variation, (name, variation) ∈ fields ∧ variation x y)
        (l.lookup name) (m.lookup name) := by
  induction each with
  | nil => exact .none
  | @cons e f _ _ first _ ih =>
      obtain ⟨n, x⟩ := e
      obtain ⟨n', y⟩ := f
      obtain ⟨rfl, value⟩ := first
      rw [List.lookup_cons, List.lookup_cons]
      by_cases same : name = n'
      · subst same
        rw [beq_self_eq_true]
        exact .some value
      · rw [beq_false_of_ne same]
        exact ih

end Datum

-----------------------------------------------------------------------------------------
-- Partial values that are alike
-----------------------------------------------------------------------------------------

section

variable {α β : Type} {R S : α → α → Prop} {x y z : Option α}

theorem rel_refl (refl : ∀ a, R a a) (x : Option α) : Option.Rel R x x := by
  cases x with
  | none => exact .none
  | some a => exact .some (refl a)

theorem rel_comp (first : Option.Rel R x y) (second : Option.Rel S y z)
    : Option.Rel (fun a c => ∃ b, R a b ∧ S b c) x z := by
  cases first with
  | none =>
      cases second with
      | none => exact .none
  | some same =>
      cases second with
      | some further => exact .some ⟨_, same, further⟩

theorem rel_mono (weaker : ∀ a b, R a b → S a b) (alike : Option.Rel R x y) : Option.Rel S x y := by
  cases alike with
  | none => exact .none
  | some related => exact .some (weaker _ _ related)

theorem rel_map {T : β → β → Prop} {f g : α → β} (alike : Option.Rel R x y)
    (carried : ∀ a b, R a b → x = some a → y = some b → T (f a) (g b))
    : Option.Rel T (x.map f) (y.map g) := by
  cases alike with
  | none => exact .none
  | some related => exact .some (carried _ _ related rfl rfl)

theorem eq_of_rel (alike : Option.Rel Eq x y) : x = y := by
  cases alike with
  | none => rfl
  | some same => rw [same]

/-- A function that does not tell values apart makes the same of them. -/
theorem map_eq_of_rel {f : α → β} (same : ∀ a b, R a b → f a = f b) (alike : Option.Rel R x y)
    : x.map f = y.map f :=
  eq_of_rel (rel_map alike fun a b related _ _ => same a b related)

end

-----------------------------------------------------------------------------------------
-- Sequences of partial values
-----------------------------------------------------------------------------------------

section

variable {α β : Type} {f : α → Option β}

theorem mapM_cons_option (f : α → Option β) (x : α) (l : List α)
    : (x :: l).mapM f = (f x).bind fun a => (l.mapM f).map (List.cons a) := by
  rw [List.mapM_cons]
  cases f x with
  | none => rfl
  | some a => cases l.mapM f <;> rfl

/-- From members that are alike, values that are alike are taken; by induction over both lists. -/
theorem mapM_rel {R : β → β → Prop} {l m : List α}
    (each : Forall₂ (fun x y => Option.Rel R (f x) (f y)) l m)
    : Option.Rel (Forall₂ R) (l.mapM f) (m.mapM f) := by
  induction each with
  | nil => exact .some .nil
  | @cons x y l m first _ ih =>
      rw [mapM_cons_option, mapM_cons_option]
      generalize f x = a, f y = b at first
      generalize l.mapM f = as, m.mapM f = bs at ih
      cases first with
      | none => exact .none
      | some same =>
          cases ih with
          | none => exact .none
          | some others => exact .some (.cons same others)

theorem mapM_congr {l m : List α} (each : Forall₂ (fun x y => f x = f y) l m)
    : l.mapM f = m.mapM f := by
  induction each with
  | nil => rfl
  | cons first _ ih => rw [mapM_cons_option, mapM_cons_option, first, ih]

/-- In another order the same values are taken, by induction over the permutation. -/
theorem mapM_perm {l m : List α} (perm : l.Perm m) : Option.Rel Perm (l.mapM f) (m.mapM f) := by
  induction perm with
  | nil => exact .some .nil
  | @cons x l m _ ih =>
      rw [mapM_cons_option, mapM_cons_option]
      generalize l.mapM f = as, m.mapM f = bs at ih
      cases f x with
      | none => exact .none
      | some a =>
          cases ih with
          | none => exact .none
          | some same => exact .some (same.cons a)
  | swap x y l =>
      simp only [mapM_cons_option]
      cases f y with
      | none => cases f x <;> exact .none
      | some b =>
          cases f x with
          | none => exact .none
          | some a =>
              cases l.mapM f with
              | none => exact .none
              | some rest => exact .some (.swap a b rest)
  | trans _ _ first second =>
      exact rel_mono (fun _ _ ⟨_, same, further⟩ => same.trans further) (rel_comp first second)

/-- What is told of a member beforehand is also told of the value that is taken from it, so the values
of one kind are those that are taken from the members of the kind; by list induction.
-/
theorem mapM_filter {κ : Type} [DecidableEq κ] {kind? : α → Option κ} {kind : β → κ}
    (told : ∀ x a, f x = some a → kind? x = some (kind a)) (k : κ) {l : List α} {values : List β}
    (taken : l.mapM f = some values)
    : (l.filter fun x => kind? x == some k).mapM f
      = some (values.filter fun a => kind a == k) := by
  induction l generalizing values with
  | nil =>
      cases taken
      rfl
  | cons x rest ih =>
      rw [mapM_cons_option, Option.bind_eq_some_iff] at taken
      obtain ⟨a, first, taken⟩ := taken
      obtain ⟨others, later, rfl⟩ := Option.map_eq_some_iff.mp taken
      have same : (kind? x == some k) = (kind a == k) := by rw [told x a first, Option.some_beq_some]
      rw [List.filter_cons, List.filter_cons, same]
      split
      · rw [mapM_cons_option, first, ih later]
        rfl
      · exact ih later

end

-----------------------------------------------------------------------------------------
-- What is read, whatever is refused
-----------------------------------------------------------------------------------------

namespace Checked

variable {α β : Type}

/-- The value that was read, if nothing was refused. -/
def value? : Checked α → Option α
  | ok a => some a
  | _ => none

theorem value?_eq_some_iff {x : Checked α} {a : α} : x.value? = some a ↔ x = .ok a := by
  cases x <;> simp [value?]

@[simp] theorem value?_map (f : α → β) (x : Checked α) : (f <$> x).value? = x.value?.map f := by
  change (x.map f).value? = _
  cases x <;> rfl

@[simp] theorem value?_mapped (f : α → β) (x : Checked α) : (x.map f).value? = x.value?.map f := by
  cases x <;> rfl

@[simp] theorem value?_seq (f : Checked (α → β)) (x : Checked α)
    : (f <*> x).value? = f.value?.bind fun g => x.value?.map g := by
  change (Checked.seq f fun _ => x).value? = _
  cases f <;> cases x <;> rfl

@[simp] theorem value?_under (step : Issue.Step) (x : Checked α)
    : (x.under step).value? = x.value? := by
  cases x <;> rfl

/-- Items are read one after the other, by list induction. -/
@[simp] theorem value?_items (read : Datum → Checked α) (index : Nat) (members : List Datum)
    : (items read index members).value? = members.mapM fun x => (read x).value? := by
  induction members generalizing index with
  | nil => rfl
  | cons x rest ih =>
      rw [items, value?_seq, value?_map, value?_under, ih, mapM_cons_option]
      cases (read x).value? <;> rfl

/-- Values of a mapping are read one after the other, by list induction. -/
@[simp] theorem value?_entries (read : Datum → Checked α) (l : List (String × Datum))
    : (entries read l).value? = l.mapM fun e => (read e.2).value?.map fun a => (e.1, a) := by
  induction l with
  | nil => rfl
  | cons e rest ih =>
      rw [entries, value?_seq, value?_map, value?_under, ih, mapM_cons_option]
      cases (read e.2).value? <;> rfl

end Checked

-----------------------------------------------------------------------------------------
-- Readers of values that vary
-----------------------------------------------------------------------------------------

/-- Sets of the same texts are the same. -/
theorem TextSet.ofList_eq_of_perm {l m : List String} (perm : l.Perm m) : ofList l = ofList m := by
  have same (s : String) : s ∈ (ofList l).elements ↔ s ∈ (ofList m).elements :=
    mem_ofList.trans (perm.mem_iff.trans mem_ofList.symm)
  have distinct (set : TextSet) : set.elements.Nodup := set.ascending.imp String.ne_of_lt
  have elements : (ofList l).elements = (ofList m).elements :=
    List.Perm.eq_of_pairwise (fun a b _ _ before after => absurd before (String.lt_asymm after))
      (ofList l).ascending (ofList m).ascending
      ((List.perm_ext_iff_of_nodup (distinct _) (distinct _)).mpr same)
  generalize ofList l = set, ofList m = other at elements
  cases set
  cases other
  congr

namespace Field

open Datum

variable {α : Type} {R : α → α → Prop} {read : Datum → Checked α}

/-- Of a value that varies either nothing is read both times, or values that are related. -/
def Respects (R : α → α → Prop) (read : Datum → Checked α) (variation : Variation) : Prop :=
  ∀ x y, variation x y → Option.Rel R (read x).value? (read y).value?

section

variable {fields : List (String × Variation)} {l m : List (String × Datum)}
  (each : Forall₂ (EntryVaries fields) l m)

include each

theorem lookup_eq_of_untouched {name : String} (untouched : name ∉ fields.map Prod.fst)
    : l.lookup name = m.lookup name := by
  have found := lookup_of_varied each name
  generalize l.lookup name = x, m.lookup name = y at found
  cases found with
  | none => rfl
  | some same =>
      rcases same with rfl | ⟨variation, member, -⟩
      · rfl
      · exact absurd (List.mem_map_of_mem member) untouched

theorem required_of_untouched {name : String} (untouched : name ∉ fields.map Prod.fst)
    (read : Datum → Checked α)
    : required l name read = required m name read := by
  rw [required, required, lookup_eq_of_untouched each untouched]

theorem optional_of_untouched {name : String} (untouched : name ∉ fields.map Prod.fst)
    (default : α) (read : Datum → Checked α)
    : optional l name default read = optional m name default read := by
  rw [optional, optional, lookup_eq_of_untouched each untouched]

/-- A field is read as its variations allow. -/
theorem optional_rel (refl : ∀ a, R a a) (name : String) (default : α)
    (respects : ∀ variation, (name, variation) ∈ fields → Respects R read variation)
    : Option.Rel R (optional l name default read).value? (optional m name default read).value? := by
  have found := lookup_of_varied each name
  unfold optional
  generalize l.lookup name = x, m.lookup name = y at found
  cases found with
  | none => exact .some (refl default)
  | some same =>
      dsimp only
      rw [Checked.value?_under, Checked.value?_under]
      rcases same with rfl | ⟨variation, member, varied⟩
      · exact rel_refl refl _
      · exact respects variation member _ _ varied

theorem optional_of_respects (name : String) (default : α)
    (respects : ∀ variation, (name, variation) ∈ fields → Respects Eq read variation)
    : (optional l name default read).value? = (optional m name default read).value? :=
  eq_of_rel (optional_rel each (fun _ => rfl) name default respects)

end

/-- A record is read alike if it does not matter how its fields vary. -/
theorem Respects.record {fields : List (String × Variation)}
    (same
      : ∀ l m,
          Forall₂ (EntryVaries fields) l m → (read (.record l)).value? = (read (.record m)).value?)
    : Respects Eq read (Fieldwise fields) := by
  intro x y varied
  cases varied with
  | same => exact rel_refl (fun _ => rfl) _
  | @record l m each =>
      rw [same l m each]
      exact rel_refl (fun _ => rfl) _

/-- Null does not vary. -/
def KeepsNull (variation : Variation) : Prop := ∀ x y, variation x y → (x = .null ↔ y = .null)

theorem keepsNull_fieldwise (fields : List (String × Variation)) : KeepsNull (Fieldwise fields) := by
  rintro x y varied
  cases varied with
  | same => rfl
  | record => exact iff_of_false nofun nofun

theorem keepsNull_sequenced (item : Variation) (order : List Datum → List Datum → Prop)
    : KeepsNull (Sequenced item order) := by
  rintro x y varied
  cases varied with
  | same => rfl
  | items given varied =>
      apply iff_of_false
      · rintro rfl
        contradiction
      · rintro rfl
        contradiction

theorem Respects.nullable {variation : Variation} (respects : Respects Eq read variation)
    (keeps : KeepsNull variation)
    : Respects Eq (nullable read) variation := by
  intro x y varied
  by_cases null : x = .null
  · obtain rfl := null
    obtain rfl := (keeps _ _ varied).mp rfl
    exact .some rfl
  · have other := mt (keeps _ _ varied).mpr null
    rw [nullable_of_ne null, nullable_of_ne other, Checked.value?_map, Checked.value?_map,
      eq_of_rel (respects x y varied)]
    exact rel_refl (fun _ => rfl) _

variable {item : Variation}

/-- A tuple is read alike if its items vary in their places only. -/
theorem Respects.tuple (respects : Respects Eq read item)
    : Respects Eq (tuple read) (Sequenced item Eq) := by
  intro x y varied
  cases varied with
  | same => exact rel_refl (fun _ => rfl) _
  | items given varied each ordered =>
      subst ordered
      rw [Field.tuple, Field.tuple, given, varied]
      dsimp only
      rw [Checked.value?_items, Checked.value?_items,
        mapM_congr (each.imp fun x y alike => eq_of_rel (respects x y alike))]
      exact rel_refl (fun _ => rfl) _

/-- Lists that are related item by item once one of them has been brought into another order. -/
def Shuffled (R : α → α → Prop) (l n : List α) : Prop := ∃ m, Forall₂ R l m ∧ m.Perm n

theorem Shuffled.refl (refl : ∀ a, R a a) (l : List α) : Shuffled R l l :=
  ⟨l, List.forall₂_same.mpr fun a _ => refl a, .refl l⟩

theorem Respects.list (refl : ∀ a, R a a) (respects : Respects R read item)
    : Respects (Shuffled R) (list read) (Sequenced item Perm) := by
  intro x y varied
  cases varied with
  | same => exact rel_refl (Shuffled.refl refl) _
  | items given varied each ordered =>
      rw [Field.list, Field.list, given, varied]
      dsimp only
      rw [Checked.value?_items, Checked.value?_items]
      exact rel_comp (mapM_rel (each.imp respects)) (mapM_perm ordered)

theorem Respects.textSet : Respects Eq textSet (Sequenced Eq Perm) := by
  intro x y varied
  cases varied with
  | same => exact rel_refl (fun _ => rfl) _
  | items given varied each ordered =>
      obtain rfl := List.forall₂_eq_eq_eq ▸ each
      rw [Field.textSet, Field.textSet, given, varied]
      dsimp only
      rw [Checked.value?_mapped, Checked.value?_mapped, Checked.value?_items, Checked.value?_items,
        map_eq_of_rel (fun _ _ same => TextSet.ofList_eq_of_perm same) (mapM_perm ordered)]
      exact rel_refl (fun _ => rfl) _

/-- The values of a mapping keep their names, by list induction. -/
theorem names_of_mapM {l : List (String × Datum)} {entries : List (String × α)}
    (taken : (l.mapM fun e => (read e.2).value?.map fun a => (e.1, a)) = some entries)
    : entries.map Prod.fst = l.map Prod.fst := by
  induction l generalizing entries with
  | nil =>
      cases taken
      rfl
  | cons e rest ih =>
      rw [mapM_cons_option, Option.bind_eq_some_iff] at taken
      obtain ⟨a, first, taken⟩ := taken
      obtain ⟨others, later, rfl⟩ := Option.map_eq_some_iff.mp taken
      obtain ⟨value, -, rfl⟩ := Option.map_eq_some_iff.mp first
      rw [List.map_cons, List.map_cons, ih later]

/-- A mapping is read with the same entries. -/
theorem Respects.mapping (respects : Respects Eq read item)
    : Respects (fun a b : OrderedMap String α => a.entries.Perm b.entries) (mapping read)
        (Mapped item) := by
  intro x y varied
  cases varied with
  | same => exact rel_refl (fun a => .refl a.entries) _
  | @record l m n names each ordered =>
      simp only [Field.mapping, Checked.value?_mapped, Checked.value?_entries]
      have inside
          : (l.mapM fun e => (read e.2).value?.map fun a => (e.1, a))
            = m.mapM fun e => (read e.2).value?.map fun a => (e.1, a) :=
        mapM_congr (each.imp fun e f alike => by rw [alike.1, eq_of_rel (respects _ _ alike.2)])
      rw [inside]
      refine rel_map (mapM_perm ordered) ?_
      intro entries others same _ taken
      have distinct : (others.map Prod.fst).Nodup := names_of_mapM taken ▸ names
      rw [OrderedMap.entries_ofList distinct,
        OrderedMap.entries_ofList ((same.map Prod.fst).nodup_iff.mpr distinct)]
      exact same

end Field

end FeatureFlags
