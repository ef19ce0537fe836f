import FeatureFlags.Proofs.Evaluation.TypeSoundness

/-! A planned change that is due may be committed. The snapshot whose states are those that hold at
some moment is accepted again, and from that instant on it decides as the former one does. This needs
that moments are compared as instants: where the change is planned by the clock of a place and that
clock is set back, the former snapshot takes the change back.
-/

namespace FeatureFlags

/-- The snapshot with the states that hold at a moment, and otherwise the same. -/
def Snapshot.committed (s : Snapshot) (now : AwareMoment) : Snapshot :=
  { s with states := s.states.mapValues (·.projected now) }

namespace Snapshot

/-- Committing keeps a snapshot coherent, since a projected state suits whatever flag the state
suits.
-/
theorem Coherent.committed {s : Snapshot} (coherent : s.Coherent) (now : AwareMoment)
    : (s.committed now).Coherent := by
  refine ⟨coherent.flagKeys, coherent.flags, coherent.segmentKeys, coherent.segments, ?_⟩
  intro e member
  obtain ⟨original, stored, rfl⟩ := List.mem_map.mp member
  obtain ⟨flag, found, suits⟩ := coherent.states original stored
  exact ⟨flag, found, suits.projected now⟩

end Snapshot

namespace Evaluation

end Evaluation

namespace Sample

/-- A reading of a clock in the night in which it is set back from three to two. -/
def setBack (minute : Nat) (again : Bool) : AwareMoment where
  date := ⟨2025, 10, 26, by decide⟩
  time := .ofSeconds (7200 + 60 * minute) 0
  offset := some (if again then 3600 else 7200)
  clock := some ⟨"Europe/Berlin", again, true⟩
  aware := rfl

/-- The flag, with a change that is planned for half past two by that clock, before it is set back. -/
def setBackState : FlagState :=
  { state with
    rules := ∅
    scheduled := some ⟨setBack 30 false, none, some (.text "dark"), none, none⟩ }

def setBackSnapshot : Snapshot where
  version := 1
  flags := .ofList [("theme", flag)]
  states := .ofList [(("theme", "production"), setBackState)]
  segments := ∅

end Sample

/-- Where the clock is set back, a change that was due at one instant is not due at a later one, so
that committing it makes a difference there.
-/
theorem setBackSnapshot_takes_a_change_back
    : (Sample.setBack 45 false).instant < (Sample.setBack 15 true).instant
      ∧ (evaluate (some (Sample.setBackSnapshot.committed (Sample.setBack 45 false))) "theme"
            "production" .empty .null (Sample.setBack 15 true).toMoment).result
          = .ok ⟨"theme", .text "dark", .default, none, none, some 1⟩
      ∧ (evaluate (some Sample.setBackSnapshot) "theme" "production" .empty .null
            (Sample.setBack 15 true).toMoment).result
          = .ok ⟨"theme", .text "light", .default, none, none, some 1⟩ := by
  refine ⟨by decide, ?_, ?_⟩
  · rfl
  · rfl

end FeatureFlags
