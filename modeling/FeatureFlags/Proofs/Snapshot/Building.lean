import FeatureFlags.Proofs.Snapshot.Consistency
import FeatureFlags.Snapshot.Build

/-! Building accepts exactly the parts that fit together, and keeps all of them. Keys are collected
in the order in which the parts are given, so the maps of a snapshot are its parts.
-/

namespace FeatureFlags.Snapshot

/-- Flags, states and segments that make up a snapshot: no key is given twice, every flag is sound,
the conditions of segments are usable, and every state suits a flag that is given.
-/
structure PartsFit (flags : List Flag) (states : List ((String × String) × FlagState))
    (segments : List Segment) : Prop where
  flagKeys : (flags.map Flag.key).Nodup
  stateKeys : (states.map Prod.fst).Nodup
  segmentKeys : (segments.map Segment.key).Nodup
  flagsSound : ∀ f ∈ flags, f.Sound
  segmentsUsable : ∀ g ∈ segments, ∀ conditions ∈ g.rules, ∀ c ∈ conditions, c.Usable
  statesSuit
    : ∀ e ∈ states, ∃ f ∈ flags, f.key = e.1.1 ∧ e.2.Suits f (segments.map Segment.key)

/-- The parts of the snapshot are the given ones, each under its key. -/
structure ConsistsOf (s : Snapshot) (flags : List Flag)
    (states : List ((String × String) × FlagState)) (segments : List Segment) : Prop where
  flags : s.flags.entries = flags.map fun f => (f.key, f)
  states : s.states.entries = states
  segments : s.segments.entries = segments.map fun g => (g.key, g)

-----------------------------------------------------------------------------------------
-- Collecting parts under their keys
-----------------------------------------------------------------------------------------

/-- Parts are collected when all keys differ, and then they are appended in their order. Witness:
induction over the parts, each of which extends the keys that were seen.
-/
theorem distinctBy_eq_ok_iff {κ α : Type} [DecidableEq κ] (duplicate : κ → Failure)
    (map : OrderedMap κ α) (l : List (κ × α)) (m : OrderedMap κ α)
    : distinctBy duplicate map l = .ok m
      ↔ ((map.entries ++ l).map Prod.fst).Nodup ∧ m.entries = map.entries ++ l := by
  induction l generalizing map with
  | nil =>
      simp only [distinctBy, Except.ok.injEq, List.append_nil, map.nodup, true_and]
      exact ⟨fun same => same ▸ rfl, fun same => (OrderedMap.ext_entries same).symm⟩
  | cons entry rest ih =>
      obtain ⟨key, a⟩ := entry
      by_cases taken : key ∈ map.entries.map Prod.fst
      · have refused : map.contains key = true := OrderedMap.contains_iff.mpr taken
        simp only [distinctBy, refused, if_true, reduceCtorEq, false_iff, not_and]
        intro distinct
        rw [List.map_append] at distinct
        exact absurd rfl ((List.nodup_append.mp distinct).2.2 key taken key (by simp))
      · have accepted : map.contains key = false := by
          simpa using mt OrderedMap.contains_iff.mp taken
        simp only [distinctBy, accepted, Bool.false_eq_true, if_false, ih,
          OrderedMap.entries_insert_of_fresh taken, List.append_assoc, List.singleton_append]

/-- Whether parts fit together does not depend on the order in which they are given. -/
theorem PartsFit.perm {flags otherFlags : List Flag}
    {states otherStates : List ((String × String) × FlagState)}
    {segments otherSegments : List Segment} (fit : PartsFit flags states segments)
    (sameFlags : otherFlags.Perm flags) (sameStates : otherStates.Perm states)
    (sameSegments : otherSegments.Perm segments)
    : PartsFit otherFlags otherStates otherSegments := by
  have known : ∀ key ∈ segments.map Segment.key, key ∈ otherSegments.map Segment.key :=
    fun key member => (sameSegments.map Segment.key).mem_iff.mpr member
  refine ⟨?_, ?_, ?_, ?_, ?_, ?_⟩
  · exact (sameFlags.map Flag.key).nodup_iff.mpr fit.flagKeys
  · exact (sameStates.map Prod.fst).nodup_iff.mpr fit.stateKeys
  · exact (sameSegments.map Segment.key).nodup_iff.mpr fit.segmentKeys
  · exact fun f member => fit.flagsSound f (sameFlags.mem_iff.mp member)
  · exact fun g member => fit.segmentsUsable g (sameSegments.mem_iff.mp member)
  · intro e member
    obtain ⟨f, given, key, suits⟩ := fit.statesSuit e (sameStates.mem_iff.mp member)
    exact ⟨f, sameFlags.mem_iff.mpr given, key, suits.mono known⟩

/-- The keys of parts stored under their own keys. -/
theorem map_fst_keyed {α : Type} (key : α → String) (l : List α)
    : (l.map fun a => (key a, a)).map Prod.fst = l.map key := by
  simp [Function.comp_def]

/-- Parts fit together exactly when their keys differ and the snapshot of them is coherent. -/
theorem partsFit_iff {s : Snapshot} {flags : List Flag}
    {states : List ((String × String) × FlagState)} {segments : List Segment}
    (parts : s.ConsistsOf flags states segments)
    : PartsFit flags states segments ↔ s.Coherent := by
  have segmentKeys : s.segments.entries.map Prod.fst = segments.map Segment.key := by
    rw [parts.segments, map_fst_keyed]
  have stored {key : String} {f : Flag} : s.flags.get? key = some f ↔ f ∈ flags ∧ f.key = key := by
    rw [OrderedMap.get?_eq_some_iff, parts.flags, List.mem_map]
    constructor
    · rintro ⟨g, member, same⟩
      obtain ⟨rfl, rfl⟩ := Prod.mk.inj same
      exact ⟨member, rfl⟩
    · rintro ⟨member, rfl⟩
      exact ⟨f, member, rfl⟩
  constructor
  · intro fit
    refine ⟨?_, ?_, ?_, ?_, ?_⟩
    · simp [parts.flags]
    · simpa [parts.flags] using fit.flagsSound
    · simp [parts.segments]
    · simpa [parts.segments] using fit.segmentsUsable
    · intro e member
      obtain ⟨f, given, key, suits⟩ := fit.statesSuit e (parts.states ▸ member)
      exact ⟨f, stored.mpr ⟨given, key⟩, segmentKeys ▸ suits⟩
  · intro coherent
    refine ⟨?_, ?_, ?_, ?_, ?_, ?_⟩
    · simpa only [parts.flags, map_fst_keyed] using s.flags.nodup
    · simpa only [parts.states] using s.states.nodup
    · simpa only [segmentKeys] using s.segments.nodup
    · simpa [parts.flags] using coherent.flags
    · simpa [parts.segments] using coherent.segments
    · intro e member
      obtain ⟨f, found, suits⟩ := coherent.states e (parts.states.symm ▸ member)
      obtain ⟨given, key⟩ := stored.mp found
      exact ⟨f, given, key, segmentKeys ▸ suits⟩

-----------------------------------------------------------------------------------------
-- Building
-----------------------------------------------------------------------------------------

/-- A version is an integer that is not negative. -/
theorem readVersion_eq_ok_iff (x : Datum) (n : Int)
    : readVersion x = .ok n ↔ Field.integer x = .ok n ∧ 0 ≤ n := by
  unfold readVersion
  cases Field.integer x with
  | ok m =>
      by_cases negative : m < 0
      · simp only [Checked.refuseIf, negative, if_true, Checked.issue, Checked.ok.injEq,
          reduceCtorEq, false_iff, not_and]
        rintro rfl
        omega
      · simp only [Checked.refuseIf, negative, if_false, Checked.ok.injEq]
        constructor
        · rintro rfl
          exact ⟨rfl, by omega⟩
        · exact And.left
  | issues l => simp [Checked.refuseIf]
  | failure e => simp [Checked.refuseIf]

theorem toExcept_under_eq_ok_iff {α : Type} (kind : String) (step : Issue.Step) (x : Checked α)
    (a : α)
    : (x.under step).toExcept kind = .ok a ↔ x = .ok a := by
  cases x <;> simp [Checked.under, Checked.toExcept]

namespace ConsistsOf

variable {s : Snapshot} {flags : List Flag} {states : List ((String × String) × FlagState)}
  {segments : List Segment}

theorem flag_found (parts : s.ConsistsOf flags states segments) {f : Flag} (given : f ∈ flags)
    : s.flags.get? f.key = some f := by
  rw [OrderedMap.get?_eq_some_iff, parts.flags]
  exact List.mem_map_of_mem given

theorem state_found (parts : s.ConsistsOf flags states segments) {key : String × String}
    {state : FlagState} (given : (key, state) ∈ states)
    : s.states.get? key = some state := by
  rw [OrderedMap.get?_eq_some_iff, parts.states]
  exact given

theorem segment_found (parts : s.ConsistsOf flags states segments) {g : Segment}
    (given : g ∈ segments)
    : s.segments.get? g.key = some g := by
  rw [OrderedMap.get?_eq_some_iff, parts.segments]
  exact List.mem_map_of_mem given

end ConsistsOf

/-- A version and maps make up a snapshot when the version is a natural number and the snapshot is
coherent.
-/
theorem ofMaps_eq_ok_iff (version : Datum) (flags : OrderedMap String Flag)
    (states : OrderedMap (String × String) FlagState) (segments : SegmentMap) (s : Snapshot)
    : ofMaps version flags states segments = .ok s
      ↔ Field.integer version = .ok s.version ∧ 0 ≤ s.version ∧ s.flags = flags
        ∧ s.states = states ∧ s.segments = segments ∧ s.Coherent := by
  simp only [ofMaps, Outcome.bind_eq_ok, toExcept_under_eq_ok_iff, readVersion_eq_ok_iff,
    Outcome.pure_eq_ok]
  constructor
  · rintro ⟨n, ⟨read, bound⟩, ⟨⟩, passed, rfl⟩
    exact ⟨read, bound, rfl, rfl, rfl, (check_eq_ok_iff _).mp passed⟩
  · rintro ⟨read, bound, rfl, rfl, rfl, coherent⟩
    exact ⟨s.version, ⟨read, bound⟩, (), (check_eq_ok_iff s).mpr coherent, rfl⟩

/-- Building succeeds with a snapshot exactly when the version is a natural number, the parts fit
together, and the snapshot consists of them.
-/
theorem build_eq_ok_iff (version : Datum) (flags : List Flag)
    (states : List ((String × String) × FlagState)) (segments : List Segment) (s : Snapshot)
    : (build version flags states segments).result = .ok s
      ↔ (Field.integer version = .ok s.version ∧ 0 ≤ s.version)
        ∧ PartsFit flags states segments
        ∧ s.ConsistsOf flags states segments := by
  simp only [build, Traced.result_bind, Traced.result_lift, Traced.result_emit,
    Traced.result_pure, Outcome.bind_eq_ok, distinctBy_eq_ok_iff, ofMaps_eq_ok_iff,
    Except.ok.injEq]
  constructor
  · rintro ⟨flagMap, ⟨-, flagEntries⟩, stateMap, ⟨-, stateEntries⟩, segmentMap,
      ⟨-, segmentEntries⟩, built, ⟨read, bound, rfl, rfl, rfl, coherent⟩, -, -, rfl⟩
    have parts : built.ConsistsOf flags states segments :=
      ⟨flagEntries, stateEntries, segmentEntries⟩
    exact ⟨⟨read, bound⟩, (partsFit_iff parts).mpr coherent, parts⟩
  · rintro ⟨⟨read, bound⟩, fit, parts⟩
    refine ⟨s.flags, ⟨?_, parts.flags⟩, s.states, ⟨?_, parts.states⟩, s.segments,
      ⟨?_, parts.segments⟩, s, ⟨read, bound, rfl, rfl, rfl, (partsFit_iff parts).mp fit⟩, (),
      trivial, rfl⟩
    · change ((flags.map fun f => (f.key, f)).map Prod.fst).Nodup
      rw [map_fst_keyed]
      exact fit.flagKeys
    · exact fit.stateKeys
    · change ((segments.map fun g => (g.key, g)).map Prod.fst).Nodup
      rw [map_fst_keyed]
      exact fit.segmentKeys

/-- Values stored under their own keys are the entries again. -/
theorem entries_eq_keyed {α : Type} {key : α → String} {m : OrderedMap String α}
    (keyed : ∀ e ∈ m.entries, e.1 = key e.2)
    : m.entries = m.values.map fun a => (key a, a) := by
  rw [OrderedMap.values, List.map_map]
  calc m.entries = m.entries.map id := (List.map_id _).symm
    _ = m.entries.map ((fun a => (key a, a)) ∘ Prod.snd) :=
      List.map_congr_left (fun e member => Prod.ext (keyed e member) rfl)

/-- A coherent snapshot consists of its own flags, states and segments. -/
theorem Coherent.consistsOf_parts {s : Snapshot} (coherent : s.Coherent)
    : s.ConsistsOf s.flags.values s.states.entries s.segments.values :=
  ⟨entries_eq_keyed coherent.flagKeys, rfl, entries_eq_keyed coherent.segmentKeys⟩

/-- A coherent snapshot with a proper version is built again from its own parts. -/
theorem Coherent.build_parts {s : Snapshot} (coherent : s.Coherent) (bound : 0 ≤ s.version)
    : (build (.int s.version) s.flags.values s.states.entries s.segments.values).result = .ok s :=
  (build_eq_ok_iff ..).mpr
    ⟨⟨rfl, bound⟩, (partsFit_iff coherent.consistsOf_parts).mpr coherent,
      coherent.consistsOf_parts⟩

/-- What building accepts is coherent and has a proper version. -/
theorem coherent_of_build {version : Datum} {flags : List Flag}
    {states : List ((String × String) × FlagState)} {segments : List Segment} {s : Snapshot}
    (built : (build version flags states segments).result = .ok s)
    : s.Coherent ∧ 0 ≤ s.version := by
  obtain ⟨⟨-, bound⟩, fit, parts⟩ := (build_eq_ok_iff ..).mp built
  exact ⟨(partsFit_iff parts).mp fit, bound⟩

/-- The snapshot was built from some parts, and building accepted them. -/
def Accepted (s : Snapshot) : Prop :=
  ∃ version flags states segments, (build version flags states segments).result = .ok s

theorem Accepted.coherent {s : Snapshot} (accepted : s.Accepted) : s.Coherent := by
  obtain ⟨version, flags, states, segments, built⟩ := accepted
  exact (coherent_of_build built).1

/-- Parts with distinct keys are the parts of some snapshot of any version. -/
theorem exists_consistsOf (version : Int) {flags : List Flag}
    {states : List ((String × String) × FlagState)} {segments : List Segment}
    (fit : PartsFit flags states segments)
    : ∃ s : Snapshot, s.version = version ∧ s.ConsistsOf flags states segments := by
  refine ⟨⟨version, ⟨flags.map fun f => (f.key, f), ?_⟩, ⟨states, fit.stateKeys⟩,
    ⟨segments.map fun g => (g.key, g), ?_⟩⟩, rfl, rfl, rfl, rfl⟩
  · rw [map_fst_keyed]
    exact fit.flagKeys
  · rw [map_fst_keyed]
    exact fit.segmentKeys

/-- Validation is sound and complete. Building succeeds exactly on a version that is not negative
and parts that fit together, and the snapshot then holds these parts and no others.
-/
theorem buildAcceptsFittingParts (version : Int) (flags : List Flag)
    (states : List ((String × String) × FlagState)) (segments : List Segment)
    : ((∃ s, (build (.int version) flags states segments).result = .ok s)
        ↔ 0 ≤ version ∧ PartsFit flags states segments)
      ∧ ∀ s, (build (.int version) flags states segments).result = .ok s
          ↔ (0 ≤ version ∧ PartsFit flags states segments)
            ∧ s.version = version
            ∧ s.ConsistsOf flags states segments := by
  have exact (s : Snapshot)
      : (build (.int version) flags states segments).result = .ok s
        ↔ (0 ≤ version ∧ PartsFit flags states segments)
          ∧ s.version = version
          ∧ s.ConsistsOf flags states segments := by
    rw [build_eq_ok_iff]
    simp only [Field.integer, Checked.ok.injEq]
    constructor
    · rintro ⟨⟨rfl, bound⟩, fit, parts⟩
      exact ⟨⟨bound, fit⟩, rfl, parts⟩
    · rintro ⟨⟨bound, fit⟩, rfl, parts⟩
      exact ⟨⟨rfl, bound⟩, fit, parts⟩
  refine ⟨?_, exact⟩
  constructor
  · rintro ⟨s, built⟩
    exact ((exact s).mp built).1
  · rintro ⟨bound, fit⟩
    obtain ⟨s, same, parts⟩ := exists_consistsOf version fit
    exact ⟨s, (exact s).mpr ⟨⟨bound, fit⟩, same, parts⟩⟩

end FeatureFlags.Snapshot
