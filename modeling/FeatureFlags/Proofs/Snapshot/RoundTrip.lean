import FeatureFlags.Proofs.Json.Plain
import FeatureFlags.Proofs.Snapshot.Faithful
import FeatureFlags.Proofs.Snapshot.Order
import FeatureFlags.Proofs.Snapshot.ReadBack
import FeatureFlags.Proofs.Snapshot.Writable
import FeatureFlags.Proofs.Toml.Plain
import Mathlib.Data.List.Nodup

/-! A snapshot that was parsed from a document is parsed again from its own document, also after that
was written as JSON text. Only the order of flags, states and segments may change, since documents
list them by key.
-/

namespace FeatureFlags.Snapshot

variable {s : Snapshot}

-----------------------------------------------------------------------------------------
-- Parts in the order of a document
-----------------------------------------------------------------------------------------

/-- The values of a map in the order of their keys are all of its values. -/
theorem filterMap_ascending_perm {α : Type} (m : OrderedMap String α)
    : ((ascending m.keys).filterMap m.get?).Perm m.values :=
  ((List.mergeSort_perm m.keys _).filterMap m.get?).trans (.of_eq m.filterMap_get?_keys)

/-- The flags in the order of their keys. -/
def listedFlags (s : Snapshot) : List Flag := s.flagKeys.filterMap s.flags.get?

theorem listedFlags_perm (s : Snapshot) : s.listedFlags.Perm s.flags.values :=
  filterMap_ascending_perm s.flags

/-- A document lists every flag of a coherent snapshot with the states under its key. -/
theorem flags_listed (coherent : s.Coherent)
    : s.listed.flags = s.listedFlags.map fun f => ⟨f, .ofList (s.statesOf f.key)⟩ := by
  simp only [listed, listedFlags, List.map_filterMap]
  apply List.filterMap_congr
  intro key _
  cases found : s.flags.get? key with
  | none => rfl
  | some f =>
      have same : key = f.key := coherent.flagKeys _ (OrderedMap.get?_eq_some_iff.mp found)
      simp [same]

theorem states_listed (coherent : s.Coherent)
    : s.listed.states
      = s.listedFlags.flatMap fun f => (s.statesOf f.key).map fun e => ((f.key, e.1), e.2) := by
  rw [Document.states, flags_listed coherent, List.flatMap_map]
  apply List.flatMap_congr
  intro f _
  rw [OrderedMap.entries_ofList (s.nodup_statesOf f.key)]

theorem nodup_listedKeys (coherent : s.Coherent) : (s.listedFlags.map Flag.key).Nodup := by
  have keyed : s.flags.values.map Flag.key = s.flags.entries.map Prod.fst := by
    rw [entries_eq_keyed coherent.flagKeys, map_fst_keyed]
  exact (s.listedFlags_perm.map Flag.key).nodup_iff.mpr (keyed ▸ s.flags.nodup)

/-- The states of different flags have different keys. -/
theorem nodup_states_listed (coherent : s.Coherent) : s.listed.states.Nodup := by
  rw [states_listed coherent, List.nodup_flatMap]
  constructor
  · intro f _
    have distinct : (s.statesOf f.key).Nodup := (s.nodup_statesOf f.key).of_map _
    refine distinct.map ?_
    rintro ⟨environment, state⟩ ⟨other, otherState⟩ same
    simpa using same
  · refine (List.pairwise_map.mp (nodup_listedKeys coherent)).imp ?_
    intro f g different e left right
    obtain ⟨_, -, rfl⟩ := List.mem_map.mp left
    obtain ⟨_, -, same⟩ := List.mem_map.mp right
    exact different (congrArg (fun e => e.1.1) same).symm

theorem mem_states_listed (coherent : s.Coherent) (e : (String × String) × FlagState)
    : e ∈ s.listed.states ↔ e ∈ s.states.entries := by
  rw [states_listed coherent, List.mem_flatMap]
  constructor
  · rintro ⟨f, -, member⟩
    obtain ⟨state, stored, rfl⟩ := List.mem_map.mp member
    exact mem_statesOf.mp stored
  · intro member
    obtain ⟨⟨key, environment⟩, state⟩ := e
    obtain ⟨f, found, -⟩ := coherent.states _ member
    have stored := OrderedMap.get?_eq_some_iff.mp found
    obtain rfl : key = f.key := coherent.flagKeys _ stored
    have listed : f ∈ s.listedFlags :=
      s.listedFlags_perm.mem_iff.mpr (List.mem_map.mpr ⟨_, stored, rfl⟩)
    exact ⟨f, listed, List.mem_map.mpr ⟨(environment, state), mem_statesOf.mpr member, rfl⟩⟩

/-- No state is lost, none is added, and none comes twice. -/
theorem states_listed_perm (coherent : s.Coherent) : s.listed.states.Perm s.states.entries :=
  (List.perm_ext_iff_of_nodup (nodup_states_listed coherent) (s.states.nodup.of_map _)).mpr
    (mem_states_listed coherent)

-----------------------------------------------------------------------------------------
-- Parsing the document of a snapshot
-----------------------------------------------------------------------------------------

/-- The parts that a document lists make up a snapshot of the same parts. -/
theorem exists_build_listed (coherent : s.Coherent) (bound : 0 ≤ s.version)
    : ∃ other : Snapshot,
        (build (.int s.listed.version) (s.listed.flags.map FlagDocument.flag) s.listed.states
            s.listed.segments).result = .ok other
          ∧ other.SameParts s := by
  have flags : (s.listed.flags.map FlagDocument.flag).Perm s.flags.values := by
    rw [flags_listed coherent, List.map_map, Function.comp_def, List.map_id']
    exact s.listedFlags_perm
  have states := states_listed_perm coherent
  have segments : s.listed.segments.Perm s.segments.values := filterMap_ascending_perm s.segments
  exact exists_build_of_perm (coherent.build_parts bound) flags states segments

/-- A coherent snapshot that a document can hold is parsed again from its document. -/
theorem exists_parse_document (documented : s.Documented) (coherent : s.Coherent)
    (bound : 0 ≤ s.version)
    : ∃ other : Snapshot, (parse s.document).result = .ok other ∧ other.SameParts s := by
  obtain ⟨other, built, same⟩ := exists_build_listed coherent bound
  refine ⟨other, ?_, same⟩
  rw [parse, read_document documented bound]
  exact built

/-- A text of either format is read as the data. -/
def Source (text : List Char) (x : Datum) : Prop :=
  Json.read text = .ok x ∨ ∃ entries, Toml.read text = .ok entries ∧ x = .record entries

theorem Source.plain {text : List Char} {x : Datum} (source : Source text x) : x.Plain := by
  rcases source with json | ⟨entries, toml, rfl⟩
  · exact (Json.held_of_read json).plain
  · exact Toml.plain_of_read toml

/-- Documents make a round trip if they can be written. A snapshot that is parsed from JSON text, or from
TOML text in which neither the version nor a priority has too many digits, can be written as JSON text;
that text is read and parsed again, and the result has the same version and the same flags, states and
segments, so that every evaluation comes out the same. All other snapshots have no JSON text.
-/
theorem documentsMakeRoundTrip {text : List Char} {x : Datum} (source : Source text x)
    (parsed : (parse x).result = .ok s)
    : (Json.read text = .ok x → s.Writable)
      ∧ (s.Writable
        → ∃ written y other,
            Json.write Json.compact s.document = .ok written
            ∧ Json.read written.toList = .ok y
            ∧ (parse y).result = .ok other
            ∧ other.SameParts s
            ∧ ∀ flagKey environment context fallback now,
                evaluate (some other) flagKey environment context fallback now
                  = evaluate (some s) flagKey environment context fallback now)
      ∧ (¬ s.Writable → Json.write Json.compact s.document = .error .tooManyDigits) := by
  have documented := documented_of_parse source.plain parsed
  obtain ⟨coherent, bound⟩ := coherent_of_parse parsed
  refine ⟨?_, ?_, ?_⟩
  · intro json
    exact writable_of_parse (Json.held_of_read json).short parsed
  · intro writable
    have short := (isOverlong_document_eq_false_iff coherent).mpr writable
    obtain ⟨written, text, read⟩ := Json.exists_text_of_short (faithful_document s) short
    obtain ⟨other, again, same⟩ := exists_parse_document documented coherent bound
    exact ⟨written, s.document, other, text, read, again, same, same.evaluate_eq⟩
  · intro unwritable
    refine Json.write_of_overlong Json.compact ?_
    rw [← Bool.not_eq_false, isOverlong_document_eq_false_iff coherent]
    exact unwritable

/-- The lines of a TOML document of a flag, which has a rule and a planned change, and a segment.
-/
def sampleLines : List String :=
  ["version = 7", "[[flags]]", "key = 'theme'", "type = 'string'",
    "variants = ['light', 'dark', 'light']",
    "[flags.environments.production]", "enabled = true", "default_value = 'light'",
    "[flags.environments.production.scheduled]", "effective_at = 2030-01-01T00:00:00+01:00",
    "default_value = 'dark'",
    "[[flags.environments.production.rules]]", "id = 'young'", "value = 'dark'",
    "segments = ['staff']",
    "[[flags.environments.production.rules.conditions]]", "attribute = 'age'",
    "operator = 'less_than'", "value = 17.5",
    "[[segments]]", "key = 'staff'", "included = ['grace', 'ada']"]

def sampleText : List Char := sampleLines.flatMap fun line => line.toList ++ ['\n']

/-- Whether a TOML text holds such data, and a document of such a snapshot. -/
def readsAs (text : List Char) (data : Datum → Bool) (snapshot : Snapshot → Bool) : Bool :=
  match Toml.read text with
  | .ok entries =>
    data (.record entries)
      && match (parse (.record entries)).result with
        | .ok s => snapshot s
        | .error _ => false
  | .error _ => false

theorem exists_of_readsAs {text : List Char} {data : Datum → Bool} {snapshot : Snapshot → Bool}
    (reads : readsAs text data snapshot = true)
    : ∃ entries s,
        Toml.read text = .ok entries
        ∧ data (.record entries) = true
        ∧ (parse (.record entries)).result = .ok s
        ∧ snapshot s = true := by
  unfold readsAs at reads
  split at reads
  · next entries read =>
      obtain ⟨holds, parses⟩ := Bool.and_eq_true_iff.mp reads
      split at parses
      · next s parsed => exact ⟨entries, s, read, holds, parsed, parses⟩
      · contradiction
  · contradiction

/-- The document is parsed and, written as JSON text, parsed again. -/
theorem sample_document_is_parsed_again
    : ∃ entries s written y other,
        Toml.read sampleText = .ok entries
        ∧ (parse (.record entries)).result = .ok s
        ∧ Json.write Json.compact s.document = .ok written
        ∧ Json.read written.toList = .ok y
        ∧ (parse y).result = .ok other
        ∧ other.SameParts s := by
  have accepted : readsAs sampleText (fun x => !x.isOverlong) (fun _ => true) = true := by
    decide +kernel
  obtain ⟨entries, s, toml, short, parsed, -⟩ := exists_of_readsAs accepted
  rw [Bool.not_eq_true'] at short
  have writable := writable_of_parse short parsed
  obtain ⟨-, comesBack, -⟩ :=
    documentsMakeRoundTrip (Or.inr ⟨entries, toml, rfl⟩) parsed
  obtain ⟨written, y, other, text, read, again, same, -⟩ := comesBack writable
  exact ⟨entries, s, written, y, other, toml, parsed, text, read, again, same⟩

/-- A TOML document whose version is written to base sixteen, since to base ten it has too many digits. -/
def overlongText : List Char := "version = 0x1".toList ++ List.replicate 3572 '0' ++ ['\n']

/-- A snapshot is parsed from the document, but its own document has no JSON text. -/
theorem overlong_version_is_not_written
    : ∃ entries s,
        Toml.read overlongText = .ok entries
        ∧ (parse (.record entries)).result = .ok s
        ∧ Json.write Json.compact s.document = .error .tooManyDigits := by
  have accepted : readsAs overlongText (fun _ => true) (fun s => s.document.isOverlong) = true := by
    decide +kernel
  obtain ⟨entries, s, toml, -, parsed, long⟩ := exists_of_readsAs accepted
  exact ⟨entries, s, toml, parsed, Json.write_of_overlong Json.compact long⟩

end FeatureFlags.Snapshot
