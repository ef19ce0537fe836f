/-! Finite sets of texts, kept as lists in strictly ascending order of code points, so that equal
sets are equal values and are always listed in the same order.
-/

namespace FeatureFlags

/-- A finite set of texts. -/
structure TextSet where
  elements : List String
  /-- The elements ascend. -/
  ascending : elements.Pairwise (· < ·)
deriving DecidableEq

namespace TextSet

def empty : TextSet := ⟨[], List.Pairwise.nil⟩

instance : EmptyCollection TextSet := ⟨empty⟩

instance : Inhabited TextSet := ⟨empty⟩

/-- Puts a text in its place in an ascending list. -/
def place (s : String) : List String → List String
  | [] => [s]
  | t :: rest => if s < t then s :: t :: rest else if s = t then t :: rest else t :: place s rest

theorem mem_place {s t : String} {l : List String} : t ∈ place s l ↔ t = s ∨ t ∈ l := by
  induction l with
  | nil => simp [place]
  | cons u rest ih =>
    simp only [place]
    split
    · simp
    · split
      · next h => subst h; simp
      · simp only [List.mem_cons, ih]
        exact ⟨fun h => by rcases h with h | h | h <;> simp [h],
          fun h => by rcases h with h | h | h <;> simp [h]⟩

theorem pairwise_place (s : String) {l : List String} (h : l.Pairwise (· < ·))
    : (place s l).Pairwise (· < ·) := by
  induction l with
  | nil => simp [place]
  | cons t rest ih =>
    simp only [place]
    have ht := (List.pairwise_cons.1 h).1
    have hr := (List.pairwise_cons.1 h).2
    split
    · next hst =>
      refine List.pairwise_cons.2 ⟨fun u hu => ?_, h⟩
      rcases List.mem_cons.1 hu with rfl | hu
      · exact hst
      · exact String.lt_trans hst (ht u hu)
    · split
      · exact h
      · next hst hne =>
        refine List.pairwise_cons.2 ⟨fun u hu => ?_, ih hr⟩
        rcases mem_place.1 hu with rfl | hu
        · exact Classical.byContradiction fun hn =>
            hne (String.le_antisymm (String.not_lt.1 hn) (String.not_lt.1 hst))
        · exact ht u hu

/-- Adds a text. -/
def insert (set : TextSet) (s : String) : TextSet :=
  ⟨place s set.elements, pairwise_place s set.ascending⟩

/-- The set of the members of a list. -/
def ofList (l : List String) : TextSet := l.foldr (fun s set => set.insert s) empty

def contains (set : TextSet) (s : String) : Bool := set.elements.contains s

def isEmpty (set : TextSet) : Bool := set.elements.isEmpty

instance : Membership String TextSet where
  mem set s := s ∈ set.elements

theorem mem_ofList {s : String} {l : List String} : s ∈ ofList l ↔ s ∈ l := by
  induction l with
  | nil => simp [ofList, empty, Membership.mem]
  | cons t rest ih =>
    have h : s ∈ ofList (t :: rest) ↔ s = t ∨ s ∈ ofList rest := mem_place
    rw [h, ih, List.mem_cons]

end TextSet

end FeatureFlags
