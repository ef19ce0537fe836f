import FeatureFlags.Proofs.Evaluation.Order
import FeatureFlags.Proofs.Snapshot.Ascending
import FeatureFlags.Proofs.Snapshot.Building
import FeatureFlags.Snapshot.Document

/-! Snapshots of the same parts. Parts that are given in another order are accepted alike, and what
comes of them has the same document, which lists everything by its key.
-/

namespace FeatureFlags

variable {s other : Snapshot}

namespace Snapshot

-----------------------------------------------------------------------------------------
-- Building
-----------------------------------------------------------------------------------------

/-- Parts that make up a snapshot make one up in every other order, with the same parts. -/
theorem exists_build_of_perm {version : Datum} {flags otherFlags : List Flag}
    {states otherStates : List ((String × String) × FlagState)}
    {segments otherSegments : List Segment}
    (built : (build version flags states segments).result = .ok s)
    (sameFlags : otherFlags.Perm flags) (sameStates : otherStates.Perm states)
    (sameSegments : otherSegments.Perm segments)
    : ∃ other,
        (build version otherFlags otherStates otherSegments).result = .ok other
        ∧ other.SameParts s := by
  obtain ⟨⟨read, bound⟩, fit, parts⟩ := (build_eq_ok_iff ..).mp built
  have otherFit := fit.perm sameFlags sameStates sameSegments
  obtain ⟨other, same, otherParts⟩ := exists_consistsOf s.version otherFit
  refine ⟨other, (build_eq_ok_iff ..).mpr ⟨⟨same ▸ read, same ▸ bound⟩, otherFit, otherParts⟩, same,
    ?_, ?_, ?_⟩
  · rw [otherParts.flags, parts.flags]
    exact sameFlags.map _
  · rw [otherParts.states, parts.states]
    exact sameStates
  · rw [otherParts.segments, parts.segments]
    exact sameSegments.map _

-----------------------------------------------------------------------------------------
-- Parsing
-----------------------------------------------------------------------------------------

/-- A document is parsed when it is read and its parts are accepted. -/
theorem parse_eq_ok_iff {x : Datum}
    : (parse x).result = .ok s
      ↔ ∃ d,
          Document.read x = .ok d
          ∧ (build (.int d.version) (d.flags.map FlagDocument.flag) d.states d.segments).result
            = .ok s := by
  unfold parse
  cases Document.read x with
  | ok d => simp
  | issues l => simp [Traced.fail]
  | failure e => simp [Traced.fail]

/-- What is parsed is coherent and has a proper version. -/
theorem coherent_of_parse {x : Datum} (parsed : (parse x).result = .ok s)
    : s.Coherent ∧ 0 ≤ s.version := by
  obtain ⟨d, -, built⟩ := parse_eq_ok_iff.mp parsed
  exact coherent_of_build built

-----------------------------------------------------------------------------------------
-- Documents
-----------------------------------------------------------------------------------------

theorem SameParts.statesOf_eq (same : s.SameParts other) (key : String)
    : s.statesOf key = other.statesOf key :=
  mergeSort_eq_of_perm Prod.fst ((same.states.filter _).map _) (s.nodup_environmentsOf key)

/-- Snapshots of the same parts have the same document. -/
theorem SameParts.document_eq (same : s.SameParts other) : s.document = other.document := by
  have flagKeys : s.flagKeys = other.flagKeys :=
    ascending_eq_of_perm (same.flags.map Prod.fst) s.flags.nodup
  have segmentKeys : ascending s.segments.keys = ascending other.segments.keys :=
    ascending_eq_of_perm (same.segments.map Prod.fst) s.segments.nodup
  simp only [document, same.version, flagKeys, segmentKeys, same.statesOf_eq,
    OrderedMap.get?_eq_of_perm same.flags, OrderedMap.get?_eq_of_perm same.segments]

end Snapshot

/-- The value lists records whose keys ascend. -/
def Datum.Ascends (x : Datum) : Prop :=
  ∃ (members : List Datum) (keys : List String),
    x = .list members
    ∧ members.map (get? "key") = keys.map (fun key => some (.text key))
    ∧ keys.Pairwise (· < ·)

/-- A document lists flags, environments and segments in ascending order of their keys. -/
structure Datum.InOrder (x : Datum) : Prop where
  flags : ∃ listed, x.get? "flags" = some listed ∧ listed.Ascends
  environments
    : ∀ members,
        x.get? "flags" = some (.list members)
        → ∀ member ∈ members,
            ∃ states,
              member.get? "environments" = some (.record states)
              ∧ (states.map Prod.fst).Pairwise (· < ·)
  segments : ∃ listed, x.get? "segments" = some listed ∧ listed.Ascends

namespace Snapshot

/-- Members that are looked up by their ascending keys ascend. -/
theorem ascends_listed {α : Type} {m : OrderedMap String α} (write : String → α → Datum)
    (keyed : ∀ e ∈ m.entries, (write e.1 e.2).get? "key" = some (.text e.1))
    : (Datum.list ((ascending m.keys).filterMap fun key => (m.get? key).map (write key))).Ascends := by
  refine ⟨_, ascending m.keys, rfl, ?_, pairwise_ascending m.nodup⟩
  have found (key : String) (member : key ∈ ascending m.keys)
      : ((m.get? key).map (write key)).map (Datum.get? "key") = some (some (.text key)) := by
    have given : key ∈ m.entries.map Prod.fst := List.mem_mergeSort.mp member
    obtain ⟨⟨k, a⟩, stored, rfl⟩ := List.mem_map.mp given
    rw [OrderedMap.get?_eq_some_iff.mpr stored]
    exact congrArg some (keyed _ stored)
  rw [List.map_filterMap]
  exact List.filterMap_eq_map_iff_forall_eq_some.mpr found

theorem get?_flagDocument (f : Flag) (states : List (String × FlagState))
    : (flagDocument f states).get? "key" = some (.text f.key)
      ∧ (flagDocument f states).get? "environments"
        = some (.record (states.map fun e => (e.1, stateDocument e.2))) := by
  constructor <;> simp [flagDocument, Datum.get?, Flag.toEntries, List.lookup_cons]

theorem get?_segmentDocument (g : Segment) : (segmentDocument g).get? "key" = some (.text g.key) := by
  simp [segmentDocument, Datum.get?]

/-- The document of a coherent snapshot is in order. -/
theorem Coherent.inOrder_document (coherent : s.Coherent) : s.document.InOrder := by
  refine ⟨⟨_, rfl, ?_⟩, ?_, ⟨_, rfl, ?_⟩⟩
  · refine ascends_listed (fun key f => flagDocument f (s.statesOf key)) ?_
    intro e member
    rw [(get?_flagDocument ..).1, coherent.flagKeys e member]
  · rintro members ⟨⟩ member listed
    obtain ⟨key, -, found⟩ := List.mem_filterMap.mp listed
    obtain ⟨f, -, rfl⟩ := Option.map_eq_some_iff.mp found
    refine ⟨_, (get?_flagDocument f (s.statesOf key)).2, ?_⟩
    rw [List.map_map]
    exact s.pairwise_statesOf key
  · refine ascends_listed (fun _ g => segmentDocument g) ?_
    intro e member
    rw [get?_segmentDocument, coherent.segmentKeys e member]

end Snapshot

end FeatureFlags
