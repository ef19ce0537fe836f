import FeatureFlags.Proofs.Evaluation.Footprint
import FeatureFlags.Proofs.Evaluation.Totality
import FeatureFlags.Proofs.Rule.Verdict
import FeatureFlags.Proofs.Snapshot.Building

/-! Values that are served have the type of their flag. In an accepted snapshot every branch serves
a value that was checked when the snapshot was built, so nothing is ever replaced; in any other
snapshot the last step replaces what the flag cannot have.
-/

namespace FeatureFlags

/-- What a flag serves while it is off is a value of the flag, by cases on its kind and variants. -/
theorem Flag.accepts_offValue (f : Flag) : f.accepts f.offValue.datum = true := by
  unfold accepts offValue
  cases kind : f.kind with
  | boolean => simp [zeroValue, kind, FlagValue.datum]
  | text => cases variants : f.variants <;> simp [zeroValue, kind, FlagValue.datum]

/-- Accepted values have the kind of the flag. -/
theorem Flag.kind_of_accepts {f : Flag} {value : Datum} (accepted : f.accepts value = true)
    : (f.kind = .boolean → ∃ b, value = .bool b) ∧ (f.kind = .text → ∃ s, value = .text s) := by
  unfold accepts at accepted
  split at accepted <;> simp_all

/-- The zero value has the kind of the flag. -/
theorem Flag.kind_of_zeroValue (f : Flag)
    : (f.kind = .boolean → ∃ b, f.zeroValue.datum = .bool b)
      ∧ (f.kind = .text → ∃ s, f.zeroValue.datum = .text s) := by
  cases kind : f.kind <;> simp [zeroValue, kind, FlagValue.datum]

namespace Evaluation

variable {s : Snapshot} {flag : Flag} {known : List String} {state : FlagState}

/-- A decision that the last step leaves as it is. -/
def Proper (flag : Flag) (d : Decision) : Prop :=
  d.reason ≠ .typeMismatch ∧ flag.accepts d.value = true

/-- Serving a conforming value for a reason of its own is a proper decision. -/
theorem proper_serve {value : FlagValue} {reason : Reason} (s : Snapshot)
    (inRollout : Option Bool) (accepted : flag.accepts value.datum = true)
    (own : reason ≠ .typeMismatch)
    : Proper flag (serve s flag value reason inRollout) :=
  ⟨own, accepted⟩

theorem proper_byDefault (s : Snapshot) (suits : state.Suits flag known) (context : Context)
    : Proper flag (byDefault s flag state context) := by
  have default := (flag.accepts_datum_iff _).mpr suits.defaultValue
  unfold byDefault
  split
  · exact proper_serve s _ default (by decide)
  · split
    · exact proper_serve s _ default (by decide)
    · exact proper_serve s _ flag.accepts_offValue (by decide)

/-- All branches of a state that suits its flag serve values of the flag. -/
theorem proper_byState (suits : state.Suits flag known) {context : Context} {d : Decision}
    (decided : (byState s flag state context).result = .ok d)
    : Proper flag d := by
  unfold byState at decided
  split at decided
  · cases decided
    exact proper_serve s _ flag.accepts_offValue (by decide)
  · simp only [Traced.result_bind, Outcome.bind_eq_ok] at decided
    obtain ⟨selected, chosen, decided⟩ := decided
    cases selected with
    | none =>
        cases decided
        exact proper_byDefault s suits context
    | some selection =>
        cases decided
        have conforms := suits.rules.values _ (Rule.mem_of_select chosen)
        exact ⟨by simp [serve], (flag.accepts_datum_iff _).mpr conforms⟩

theorem proper_resolve (suits : state.Suits flag known) {context : Context} {now : AwareMoment}
    {d : Decision} (decided : (resolve s flag state context now.toMoment).result = .ok d)
    : Proper flag d := by
  rw [resolve_eq] at decided
  split at decided
  · cases decided
    exact proper_serve s _ flag.accepts_offValue (by decide)
  · exact proper_byState (suits.projected now) decided

/-- The last step keeps what the flag can have and replaces everything else by the zero value. -/
theorem guarded_result (s : Snapshot) (flagKey environment : String) (flag : Flag)
    (context : Context) (d : Decision)
    : (guarded s flagKey environment flag context d).result
      = .ok
          (if flag.accepts d.value then d
            else ⟨flagKey, flag.zeroValue.datum, .typeMismatch, none, none, some s.version⟩) := by
  unfold guarded
  split <;> rfl

/-- A decision about a flag that was found carries an accepted value or the replacement. -/
theorem accepted_or_replaced {flagKey environment : String}
    (flagFound : s.flags.get? flagKey = some flag)
    (stateFound : s.states.get? (flagKey, environment) = some state) {context : Context}
    {fallback : Datum} {now : Moment} {d : Decision}
    (decided : (evaluate (some s) flagKey environment context fallback now).result = .ok d)
    : flag.accepts d.value = true
      ∨ (d.value = flag.zeroValue.datum ∧ d.reason = .typeMismatch) := by
  rw [evaluate_of_found flagFound stateFound, Traced.result_bind, Outcome.bind_eq_ok] at decided
  obtain ⟨resolved, -, guardedTo⟩ := decided
  rw [guarded_result, Except.ok.injEq] at guardedTo
  split at guardedTo
  · next accepted => exact Or.inl (guardedTo ▸ accepted)
  · exact Or.inr ⟨guardedTo ▸ rfl, guardedTo ▸ rfl⟩

end Evaluation

namespace Snapshot.Coherent

variable {s : Snapshot} {flagKey environment : String} {flag : Flag} {state : FlagState}

/-- In a coherent snapshot the last step replaces nothing: a flag is decided about as it is
resolved.
-/
theorem evaluate_eq_resolve (coherent : s.Coherent) (flagFound : s.flags.get? flagKey = some flag)
    (stateFound : s.states.get? (flagKey, environment) = some state) (context : Context)
    (fallback : Datum) (now : AwareMoment)
    : (evaluate (some s) flagKey environment context fallback now.toMoment).result
      = (Evaluation.resolve s flag state context now.toMoment).result := by
  have suits := coherent.suits flagFound stateFound
  obtain ⟨d, decided⟩ := Evaluation.resolve_answers coherent.segments suits context now
  have proper := Evaluation.proper_resolve suits decided
  rw [Evaluation.evaluate_of_found flagFound stateFound, Traced.result_bind, decided]
  change (Evaluation.guarded s flagKey environment flag context d).result = .ok d
  rw [Evaluation.guarded_result, if_pos proper.2]

/-- A coherent snapshot serves only values of the flag, and never for want of a better one. -/
theorem evaluate_proper (coherent : s.Coherent) (flagFound : s.flags.get? flagKey = some flag)
    (stateFound : s.states.get? (flagKey, environment) = some state) (context : Context)
    (fallback : Datum) (now : AwareMoment)
    : ∃ d, (evaluate (some s) flagKey environment context fallback now.toMoment).result = .ok d
        ∧ Evaluation.Proper flag d := by
  have suits := coherent.suits flagFound stateFound
  obtain ⟨d, decided⟩ := Evaluation.resolve_answers coherent.segments suits context now
  rw [coherent.evaluate_eq_resolve flagFound stateFound]
  exact ⟨d, decided, Evaluation.proper_resolve suits decided⟩

end Snapshot.Coherent

/-- Type soundness. A snapshot that was built from parts answers every evaluation of a flag that it
holds with a value that the flag can have, and with a reason other than a mismatch of types. In a
snapshot that was put together without checks, an answer is a value that the flag can have or else
its zero value for the reason of such a mismatch; so a boolean flag never serves a text and a flag
with texts never serves a truth value.
-/
theorem servedValuesFitFlag
    : (∀ (version : Datum) (flags : List Flag) (states : List ((String × String) × FlagState))
          (segments : List Segment) (s : Snapshot),
        (Snapshot.build version flags states segments).result = .ok s
        → ∀ (flagKey environment : String) (flag : Flag) (state : FlagState),
            s.flags.get? flagKey = some flag
            → s.states.get? (flagKey, environment) = some state
            → ∀ (context : Context) (fallback : Datum) (now : AwareMoment),
                ∃ d,
                  (evaluate (some s) flagKey environment context fallback now.toMoment).result
                      = .ok d
                  ∧ d.reason ≠ .typeMismatch
                  ∧ flag.accepts d.value = true)
      ∧ ∀ (s : Snapshot) (flagKey environment : String) (flag : Flag) (state : FlagState),
          s.flags.get? flagKey = some flag
          → s.states.get? (flagKey, environment) = some state
          → ∀ (context : Context) (fallback : Datum) (now : Moment) (d : Decision),
              (evaluate (some s) flagKey environment context fallback now).result = .ok d
              → (flag.accepts d.value = true
                  ∨ (d.value = flag.zeroValue.datum ∧ d.reason = .typeMismatch))
                ∧ (flag.kind = .boolean → ∃ b, d.value = .bool b)
                ∧ (flag.kind = .text → ∃ text, d.value = .text text) := by
  refine ⟨?_, ?_⟩
  · intro version flags states segments s built flagKey environment flag state flagFound
      stateFound context fallback now
    have coherent := (Snapshot.coherent_of_build built).1
    exact coherent.evaluate_proper flagFound stateFound context fallback now
  · intro s flagKey environment flag state flagFound stateFound context fallback now d decided
    have outcome := Evaluation.accepted_or_replaced flagFound stateFound decided
    refine ⟨outcome, ?_⟩
    rcases outcome with accepted | ⟨replaced, -⟩
    · exact flag.kind_of_accepts accepted
    · rw [replaced]
      exact flag.kind_of_zeroValue

namespace Sample

/-- A flag with two texts. -/
def flag : Flag := ⟨"theme", .text, ["light", "dark"], "", "", []⟩

/-- The start of the year 2030 in universal time. -/
def newYear : AwareMoment := ⟨⟨⟨2030, 1, 1, by decide⟩, .midnight, some 0, none⟩, rfl⟩

/-- A year before the change at the start of 2030. -/
def yearBefore : AwareMoment := ⟨⟨⟨2029, 1, 1, by decide⟩, .midnight, some 0, none⟩, rfl⟩

/-- The second text for half of those on one plan. -/
def rule : Rule where
  id := "paying"
  priority := 1
  conditions := [⟨"plan", .equals, some (.text "pro")⟩]
  segments := []
  excludedSegments := []
  percentage := some ⟨50, Nat.le_add_right 50 50⟩
  value := .text "dark"
  description := ""

/-- Someone on the plan that the rule is about. -/
def payer : Context := ⟨"user", .ofList [("plan", .text "pro")]⟩

/-- The first text for all others, until everyone gets the second one. -/
def state : FlagState where
  enabled := true
  killSwitch := false
  killSwitchActivatedAt := none
  defaultValue := .text "light"
  percentage := none
  rules := ⟨[rule], List.pairwise_singleton _ _⟩
  scheduled := some ⟨newYear, none, some (.text "dark"), none, some ∅⟩

/-- The flag with a truth value as its default. -/
def unchecked : Snapshot where
  version := 1
  flags := .ofList [("theme", flag)]
  states := .ofList
    [(("theme", "production"), { state with defaultValue := .bool true, rules := ∅ })]
  segments := ∅

/-- Building accepts the flag with its state. -/
theorem exists_built
    : ∃ s, (Snapshot.build (.int 1) [flag] [(("theme", "production"), state)] []).result = .ok s :=
  Outcome.exists_of_isOk (by decide +kernel)

end Sample

/-- The flag is served a text once its change is due, and also where a truth value stands in its
place.
-/
theorem sample_flag_serves_texts
    : (∃ s d,
        (Snapshot.build (.int 1) [Sample.flag] [(("theme", "production"), Sample.state)] []).result
            = .ok s
          ∧ (evaluate (some s) "theme" "production" .empty .null Sample.newYear.toMoment).result
              = .ok d
          ∧ d.reason ≠ .typeMismatch
          ∧ Sample.flag.accepts d.value = true)
      ∧ ∃ d,
          (evaluate (some Sample.unchecked) "theme" "production" .empty .null
              ⟨⟨2029, 1, 1, by decide⟩, .midnight, some 0, none⟩).result = .ok d
            ∧ d.reason = .typeMismatch
            ∧ ∃ text, d.value = .text text := by
  obtain ⟨checked, guarded⟩ := servedValuesFitFlag
  constructor
  · obtain ⟨s, built⟩ := Sample.exists_built
    obtain ⟨-, -, parts⟩ := (Snapshot.build_eq_ok_iff ..).mp built
    have flagFound : s.flags.get? "theme" = some Sample.flag :=
      OrderedMap.get?_eq_some_iff.mpr (by rw [parts.flags]; exact List.mem_cons_self)
    have stateFound : s.states.get? ("theme", "production") = some Sample.state :=
      OrderedMap.get?_eq_some_iff.mpr (by rw [parts.states]; exact List.mem_cons_self)
    obtain ⟨d, decided, proper⟩ := checked _ _ _ _ s built "theme" "production" Sample.flag
      Sample.state flagFound stateFound .empty .null Sample.newYear
    exact ⟨s, d, built, decided, proper⟩
  · have decided
        : (evaluate (some Sample.unchecked) "theme" "production" .empty .null
            ⟨⟨2029, 1, 1, by decide⟩, .midnight, some 0, none⟩).result
          = .ok ⟨"theme", .text "", .typeMismatch, none, none, some 1⟩ := by
      rfl
    have outcome := guarded Sample.unchecked "theme" "production" Sample.flag _ rfl rfl .empty
      .null _ _ decided
    exact ⟨_, decided, rfl, outcome.2.2 rfl⟩

end FeatureFlags
