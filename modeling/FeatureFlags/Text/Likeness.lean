/-! How much two texts are alike. The longest run of characters that both have is found first, then
the longest runs in front of it and behind it, and so on; what counts is how many characters are in
such runs.
-/

namespace FeatureFlags.Likeness

/-- The number of characters that two texts have in common at their start. -/
def commonStart : List Char → List Char → Nat
  | a :: s, b :: t => if a = b then commonStart s t + 1 else 0
  | _, _ => 0

/-- A run of characters that two texts have in common. -/
structure Run where
  length : Nat
  /-- Its place in the first text. -/
  first : Nat
  /-- Its place in the second text. -/
  second : Nat
deriving DecidableEq, Repr

/-- The longest common run; of several the one that comes first. -/
def longestRun (s t : List Char) : Run :=
  (List.range s.length).foldl (fun best i =>
    (List.range t.length).foldl (fun best j =>
      let length := commonStart (s.drop i) (t.drop j)
      if best.length < length then ⟨length, i, j⟩ else best) best) ⟨0, 0, 0⟩

/-- The number of characters in common runs, for at most so many runs within one another. -/
def commonWithin : Nat → List Char → List Char → Nat
  | 0, _, _ => 0
  | depth + 1, s, t =>
    let run := longestRun s t
    if run.length = 0 then 0
    else
      run.length + commonWithin depth (s.take run.first) (t.take run.second) +
        commonWithin depth (s.drop (run.first + run.length)) (t.drop (run.second + run.length))

/-- The number of characters in common runs. -/
def common (s t : List Char) : Nat := commonWithin s.length s t

/-- The share of characters in common runs, as a quotient. -/
structure Share where
  part : Nat
  whole : Nat
deriving DecidableEq, Repr

def share (s t : List Char) : Share := ⟨2 * common s t, s.length + t.length⟩

/-- Whether a share is at least three fifths. -/
def Share.isHigh (x : Share) : Bool := 3 * x.whole ≤ 5 * x.part

def Share.lt (x y : Share) : Bool := x.part * y.whole < y.part * x.whole

/-- The candidates that are much like a word, the most similar ones first and three at most. -/
def closest (word : String) (candidates : List String) : List String :=
  let shares := candidates.map fun c => (share c.toList word.toList, c)
  let sorted := (shares.filter fun e => e.1.isHigh).mergeSort fun a b =>
    b.1.lt a.1 || (!a.1.lt b.1 && decide (b.2 ≤ a.2))
  (sorted.take 3).map Prod.snd

end FeatureFlags.Likeness
