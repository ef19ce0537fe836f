import FeatureFlags.Proofs.Engine.Traces
import FeatureFlags.Proofs.Evaluation.Explanation
import FeatureFlags.Proofs.Snapshot.Ascending

/-! Sweeps, which decide about all flags of an environment. A sweep goes by the snapshot and the moment
that it finds at the beginning, whatever those do who hear of its decisions.
-/

namespace FeatureFlags

-----------------------------------------------------------------------------------------
-- Readings of a clock
-----------------------------------------------------------------------------------------

namespace Host

section

variable {id other : Engine.Id} {h h' : Host}

end

-----------------------------------------------------------------------------------------
-- The decisions of a sweep
-----------------------------------------------------------------------------------------

section

variable {s : Surroundings} {perform : Performer} {id : Engine.Id} {snapshot : Snapshot}
  {environment : String} {context : Context} {t : Moment}

/-- If all evaluations answer, their answers are the decisions, whatever happens between them; by
induction over the keys. Without a given moment each one has a reading of the present for itself.
-/
theorem decideAll_fst {now : Option Moment} {keys : List String}
    (answers
      : ∀ key ∈ keys, ∀ reading,
          (evaluate (some snapshot) key environment context (.bool false)
            (now.getD (s.present reading))).Answers)
    (h : Host)
    : ∃ decisions,
        (h.decideAll s perform id snapshot environment context now keys).1 = .ok decisions
        ∧ decisions.map Prod.fst = keys
        ∧ ∀ key d,
            (key, d) ∈ decisions
            → ∃ reading,
                (evaluate (some snapshot) key environment context (.bool false)
                  (now.getD (s.present reading))).result = .ok d := by
  induction keys generalizing h with
  | nil => exact ⟨[], rfl, rfl, nofun⟩
  | cons key rest ih =>
      obtain ⟨d, decided⟩ := answers key List.mem_cons_self h.readings
      have first := h.decide_fst s perform id (some snapshot) key environment context
        (.bool false) now
      rw [evaluation, decided] at first
      unfold decideAll
      generalize h.decide s perform id (some snapshot) key environment context (.bool false) now
        = decision at first ⊢
      obtain ⟨outcome, reached⟩ := decision
      obtain rfl : outcome = .ok d := first
      obtain ⟨others, later, keys, each⟩ :=
        ih (fun k member => answers k (List.mem_cons_of_mem key member)) reached
      dsimp only
      generalize reached.decideAll s perform id snapshot environment context now rest
        = decisions at later ⊢
      obtain ⟨outcome, last⟩ := decisions
      obtain rfl : outcome = .ok others := later
      refine ⟨(key, d) :: others, rfl, by rw [List.map_cons, keys], ?_⟩
      intro k e member
      rcases List.mem_cons.mp member with same | among
      · cases same
        exact ⟨h.readings, decided⟩
      · exact each k e among

/-- A sweep goes by the snapshot that it finds at the beginning, and by the moment that it is asked
for; without one each decision has a reading of the present for itself.
-/
theorem exists_evaluateAll (s : Surroundings) (perform : Performer) {now : Option Moment} {h : Host}
    (held : (h.engine id).snapshot = some snapshot)
    (answers
      : ∀ key reading,
          (evaluate (some snapshot) key environment context (.bool false)
            ((h.askedMoment id now).getD (s.present reading))).Answers)
    : ∃ decisions,
        (h.evaluateAll s perform id environment context now).1 = .ok decisions
        ∧ decisions.map Prod.fst = snapshot.flagKeysIn environment
        ∧ ∀ key d,
            (key, d) ∈ decisions
            → ∃ reading,
                (evaluate (some snapshot) key environment context (.bool false)
                  ((h.askedMoment id now).getD (s.present reading))).result = .ok d := by
  unfold evaluateAll
  rw [held]
  dsimp only
  rw [clockMoment_fst]
  exact decideAll_fst (fun key _ => answers key) _

end

end Host

namespace Sample

end Sample

end FeatureFlags
