import FeatureFlags.Benchmark.Percentiles
import FeatureFlags.Evaluation
import FeatureFlags.Number.Fixed
import FeatureFlags.Snapshot.Build

/-! A made-up snapshot and made-up entities by which evaluation is measured: rules with and without a
rollout, a segment, kill switches and disabled flags all occur.
-/

namespace FeatureFlags.Benchmark

def environment : String := "bench"

/-- The percentage of the rollout of every flag. -/
def rolloutPercentage : Percentage := ⟨30, by decide⟩

def rule (id : String) (priority : Int) (conditions : List Condition) (segments : List String)
    (percentage : Option Percentage) (value : FlagValue) : Rule :=
  ⟨id, priority, conditions, segments, [], percentage, value, ""⟩

def enterprise : Segment :=
  ⟨"enterprise", "", "", ∅, ∅, [[⟨"plan", .equals, some (.text "enterprise")⟩]]⟩

/-- The number fifty. -/
def fifty : Option Attribute := (Number.of? (.ofRatio false 50 1)).map .number

/-- The rules of flags with texts as values. -/
def textRules : List Rule :=
  [rule "eu" 0 [⟨"country", .isIn, some (.texts (.ofList ["FR", "DE"]))⟩] []
    (some ⟨50, by decide⟩) (.text "treatment")]

/-- The rules of flags with truth values. -/
def booleanRules : List Rule :=
  [rule "staff" 0 [⟨"email", .endsWith, some (.text "@corp.test")⟩] [] none (.bool true),
    rule "enterprise" 1 [] ["enterprise"] none (.bool true),
    rule "heavy" 2
      [⟨"sessions", .greaterThan, fifty⟩, ⟨"email", .matchesPattern, some (.text "^[a-m]")⟩]
      [] none (.bool true)]

def flagKey (i : Nat) : String := "bench-flag-" ++ toString i

/-- Whether a flag has texts as values. -/
def hasTexts (i : Nat) : Bool := i % 4 == 3

def flag (i : Nat) : Flag :=
  if hasTexts i then ⟨flagKey i, .text, ["control", "treatment"], "", "", []⟩
  else ⟨flagKey i, .boolean, [], "", "", []⟩

def state (i : Nat) : FlagState where
  enabled := i % 10 != 9
  killSwitch := i % 17 == 16
  killSwitchActivatedAt := none
  defaultValue := if hasTexts i then .text "control" else .bool true
  percentage := some rolloutPercentage
  rules := .ofList (if hasTexts i then textRules else booleanRules)
  scheduled := none

/-- The snapshot of a number of flags. -/
def snapshot (flags : Nat) : Except Failure Snapshot :=
  (Snapshot.build (.int 1) ((List.range flags).map flag)
    ((List.range flags).map fun i => ((flagKey i, environment), state i)) [enterprise]).result

def letters : List Char := "abcdefghijklmnopqrstuvwxyz".toList

def countries : List String := ["FR", "DE", "US", "JP", "BR"]

def plans : List String := ["free", "pro", "enterprise"]

/-- The member of a list at a number that counts round and round. -/
def cyclic {α : Type} (l : List α) (default : α) (i : Int) : α :=
  l.getD (i.fmod l.length).toNat default

/-- An entity. -/
def context (i : Int) : Except Failure Context :=
  let number := toString i
  Context.of (.text ("entity-" ++ number))
    [(.text "email", .text (String.singleton (cyclic letters 'a' i) ++ "user" ++ number ++
        "@example.test")),
      (.text "country", .text (cyclic countries "" i)),
      (.text "plan", .text (cyclic plans "" i)), (.text "sessions", .int (i.fmod 100))]

/-- What was counted while flags were evaluated. -/
structure Counts where
  evaluations : Nat
  /-- How often each reason occurred. -/
  reasons : OrderedMap String Nat
  /-- Decisions by a rollout of a flag. -/
  rolloutDecisions : Nat
  /-- Those of them for entities that take part. -/
  rolloutIncluded : Nat

namespace Counts

def zero : Counts := ⟨0, ∅, 0, 0⟩

/-- Counts a decision. -/
def add (c : Counts) (d : Decision) : Counts :=
  let byRollout := d.ruleId.isNone && d.inRollout.isSome
  { evaluations := c.evaluations + 1
    reasons := c.reasons.insert d.reason.word ((c.reasons.get? d.reason.word).getD 0 + 1)
    rolloutDecisions := c.rolloutDecisions + (if byRollout then 1 else 0)
    rolloutIncluded :=
      c.rolloutIncluded + (if byRollout && d.inRollout == some true then 1 else 0) }

/-- The share of entities that take part, in percent to two places. -/
def observedPercentage (c : Counts) : Double :=
  if c.rolloutDecisions = 0 then .zero
  else (Double.ofRatio false (100 * c.rolloutIncluded) c.rolloutDecisions).roundTo 2

end Counts

/-- Evaluates all flags for a number of entities and counts the decisions. No flag has a planned
change, so the moment plays no part. -/
def run (entities flags : Nat) (now : Moment) : Except Failure Counts := do
  let s ← snapshot flags
  (List.range entities).foldlM (fun c i => do
    let entity ← context (Int.ofNat i)
    (s.flagKeysIn environment).foldlM (fun c key => do
      return c.add (← (evaluate (some s) key environment entity (.bool false) now).result)) c)
    Counts.zero

/-- What was counted, as loose data. -/
def countsDatum (entities flags : Nat) (c : Counts) : Datum :=
  .record [("entities", .int entities), ("flags", .int flags),
    ("evaluations", .int c.evaluations),
    ("reason_counts", .record (c.reasons.entries.map fun e => (e.1, .int e.2))),
    ("rollout", .record [("configured_pct", .int rolloutPercentage.value),
      ("observed_pct", .double c.observedPercentage),
      ("decisions", .int c.rolloutDecisions)])]

end FeatureFlags.Benchmark
