import FeatureFlags.Condition.Stored
import FeatureFlags.Proofs.Pattern.Store

/-! Regular expressions that are kept once they were read. Whoever asks cannot tell that they are, apart
from what is counted: no answer depends on what was asked for before, and no condition on what the
store holds.
-/

namespace FeatureFlags

-----------------------------------------------------------------------------------------
-- Conditions
-----------------------------------------------------------------------------------------

namespace Condition

variable {store : Pattern.Store}

/-- To ask a sound store for a regular expression is to read it. -/
theorem matchesInStored_eq (sound : store.Sound Pattern.read) (pattern text : String)
    : matchesInStored pattern text store
      = (matchesIn pattern text, store.afterAll Pattern.read [pattern]) := by
  simp only [matchesInStored, matchesIn, Pattern.cached, sound.answer]
  rfl

theorem holdsBetweenStored_eq (sound : store.Sound Pattern.read) (op : Operator)
    (actual : Attribute) (expected : Option Attribute)
    : ∃ asked,
        holdsBetweenStored op actual expected store
          = (holdsBetween op actual expected, store.afterAll Pattern.read asked) := by
  unfold holdsBetweenStored
  split
  · exact ⟨_, matchesInStored_eq sound _ _⟩
  · exact ⟨[], rfl⟩

/-- With a sound store a condition holds as it does without one, and the store is asked for regular
expressions at most.
-/
theorem holdsStored_eq (sound : store.Sound Pattern.read) (c : Condition) (context : Context)
    : ∃ asked,
        c.holdsStored context store = (c.holds context, store.afterAll Pattern.read asked) := by
  unfold holdsStored holds
  generalize c.operator = op, context.get? c.name = found
  cases found with
  | none => cases op <;> exact ⟨[], rfl⟩
  | some actual =>
      have negates (positive : Operator)
          : ∃ asked,
              ((do return !(← (holdsBetweenStored positive actual c.value store).1) : Traced Bool),
                (holdsBetweenStored positive actual c.value store).2)
                = (do return !(← holdsBetween positive actual c.value),
                    store.afterAll Pattern.read asked) := by
        obtain ⟨asked, same⟩ := holdsBetweenStored_eq sound positive actual c.value
        exact ⟨asked, by rw [same]⟩
      cases op
      case isSet | isNotSet => exact ⟨[], rfl⟩
      case notEquals => exact negates .equals
      case notContains => exact negates .contains
      case notIn => exact negates .isIn
      all_goals exact holdsBetweenStored_eq sound _ actual c.value

end Condition

-----------------------------------------------------------------------------------------
-- Regular expressions
-----------------------------------------------------------------------------------------

namespace Pattern

/-- The store after it was asked for texts, one after the other, if it was empty before. -/
def storeAfter (history : List String) : Store :=
  history.foldl (fun store text => (cached text store).2) (Cache.ofCapacity cacheCapacity)

/-- The texts among them that had to be read, since the store did not hold what they say. -/
def readFor (history : List String) : List String :=
  Cache.computed read (Cache.ofCapacity cacheCapacity) history

/-- Whether a text is a regular expression. -/
def isValid (text : String) : Bool := (read text).isOk

/-- The regular expressions among texts, each of them once. -/
def distinct (history : List String) : Finset String := (history.filter isValid).toFinset

end Pattern

open Pattern

/-- The store of regular expressions is bounded and cannot be noticed. However often it was asked, it
answers as if nothing were stored, every question is counted, and it holds regular expressions
only, all of them as long as there is room: each one is read once then, and what cannot be read is read
again each time. If there is no more room, the one that was asked for least recently is dropped, and
nothing else ever is. No condition depends on what the store holds.
-/
theorem storedPatternsUnnoticed (history : List String)
    : (∀ text, (cached text (storeAfter history)).1 = read text)
      ∧ (storeAfter history).hits + (storeAfter history).misses = history.length
      ∧ (storeAfter history).size ≤ 1024
      ∧ ((distinct history).card ≤ 1024
        → (storeAfter history).size = (distinct history).card
          ∧ (∀ text ∈ distinct history, (readFor history).count text = 1)
          ∧ (storeAfter history).misses
            = (distinct history).card + history.countP fun text => !isValid text)
      ∧ (∀ text ∈ (storeAfter history).keys, isValid text = true)
      ∧ (∀ text dropped,
        dropped ∈ (storeAfter history).keys ∧ dropped ∉ (storeAfter (history ++ [text])).keys
        ↔ isValid text = true
          ∧ text ∉ (storeAfter history).keys
          ∧ (storeAfter history).size = 1024
          ∧ dropped ∈ (storeAfter history).keys
          ∧ ∀ other ∈ (storeAfter history).keys,
              other ≠ dropped → AskedLater history dropped other)
      ∧ ∀ (c : Condition) (context : Context),
        (c.holdsStored context (storeAfter history)).1 = c.holds context
        ∧ ∃ asked,
            (c.holdsStored context (storeAfter history)).2 = storeAfter (history ++ asked) := by
  have remembers : (storeAfter history).Remembers read history :=
    Cache.remembers_afterAll read cacheCapacity history
  have capacity : (storeAfter history).capacity = 1024 :=
    Cache.capacity_afterAll read cacheCapacity history
  have size : (storeAfter history).size = min 1024 (distinct history).card :=
    Cache.size_afterAll read cacheCapacity history
  refine ⟨remembers.sound.answer, remembers.counted, size ▸ Nat.min_le_left _ _, ?_,
    fun text found => remembers.sound.works_of_mem found, ?_, ?_⟩
  · intro room
    have room' : (recent (Cache.works read) history).length ≤ cacheCapacity :=
      (length_recent _ history).trans_le room
    refine ⟨size.trans (Nat.min_eq_right room), ?_, Cache.misses_of_room room'⟩
    intro text found
    obtain ⟨asked, valid⟩ := List.mem_filter.mp (List.mem_toFinset.mp found)
    exact Cache.count_computed room' valid asked
  · intro text dropped
    have next : storeAfter (history ++ [text]) = ((storeAfter history).ask read text).2 :=
      Cache.afterAll_concat read _ history text
    rw [next, remembers.dropped_iff, capacity]
    rfl
  · intro c context
    obtain ⟨asked, same⟩ := c.holdsStored_eq remembers.sound context
    refine ⟨congrArg Prod.fst same, asked, (congrArg Prod.snd same).trans ?_⟩
    exact (Cache.afterAll_append read _ history asked).symm

namespace Sample

/-- Texts of which the second one is no regular expression, and the first one comes again. -/
def questions : List String := ["^a+$", "(", "^a+$", "[b-d]"]

end Sample

/-- Of four questions the repeated one is answered from the store, and the malformed text is not
stored.
-/
theorem sample_questions_are_stored
    : (storeAfter Sample.questions).size = 2
      ∧ (readFor Sample.questions).count "^a+$" = 1
      ∧ (storeAfter Sample.questions).misses = 3
      ∧ (cached "(" (storeAfter Sample.questions)).1 = read "(" := by
  have regular : distinct Sample.questions = {"^a+$", "[b-d]"} := by decide +kernel
  have failing : (Sample.questions.countP fun text => !isValid text) = 1 := by decide +kernel
  have few : (distinct Sample.questions).card = 2 := by rw [regular]; rfl
  obtain ⟨answers, -, -, roomy, -⟩ := storedPatternsUnnoticed Sample.questions
  obtain ⟨size, once, misses⟩ := roomy (few.trans_le (by decide))
  refine ⟨size.trans few, once _ (by simp [regular]), ?_, answers "("⟩
  rw [misses, few, failing]

end FeatureFlags
