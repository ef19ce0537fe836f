import FeatureFlags.Benchmark.Percentiles
import FeatureFlags.Number.Fixed

/-! The text of a report about a benchmark. Reports are loose data, so that one that was written to a
file can be shown as well.
-/

namespace FeatureFlags.Benchmark.Report

/-- The part of a record under a name. -/
def part (x : Datum) (name : String) : Except Failure Datum :=
  match x.get? name with
  | some y => .ok y
  | none => .error (.unknownName name)

/-- The value of a number as a double. -/
def number (x : Datum) : Except Failure Double :=
  match x.number? with
  | some m => Measure.double m
  | none => .error (.wrongKind ("no number: " ++ x.literal))

/-- A part of a record as text. -/
def shown (x : Datum) (name : String) : Except Failure String := return (← part x name).display

/-- A number with a fixed number of places. -/
def places (x : Datum) (name : String) (count : Nat) : Except Failure String := do
  return (← number (← part x name)).fixed count

/-- Seconds as microseconds to two places. -/
def micros (x : Datum) (name : String) : Except Failure String := do
  return ((← number (← part x name)).mul (.ofRatio false 1000000 1)).fixed 2 ++ "us"

def rule : String := String.ofList (List.replicate 60 '=')

/-- The lines about one reason. -/
def reasonLines (report : Datum) (entry : String × Datum) : Except Failure (List String) := do
  let count ← shown (← part report "reason_counts") entry.1
  return ["    " ++ entry.1 ++ " (" ++ count ++ "):",
    "      p50=" ++ (← micros entry.2 "p50") ++ "  p95=" ++ (← micros entry.2 "p95") ++ "  p99=" ++
      (← micros entry.2 "p99")]

/-- The entries of a record in the order of their names. -/
def sortedEntries : Datum → List (String × Datum)
  | .record entries => entries.mergeSort fun a b => !decide (b.1 < a.1)
  | _ => []

/-- The text of a report. -/
def text (report : Datum) : Except Failure String := do
  let head := [rule, "  Flag Evaluation Benchmark Report", rule,
    "  Entities:        " ++ (← shown report "entities"),
    "  Flags:           " ++ (← shown report "flags"),
    "  Evaluations:     " ++ (← shown report "evaluations"),
    "  Total time:      " ++ (← places report "total_time_s" 4) ++ "s",
    "  Throughput:      " ++ (← places report "throughput_evals_per_sec" 2) ++ " evals/sec", "",
    "  Latency Percentiles:"]
  let all ← part report "duration_percentiles"
  let latencies := ["    p50: " ++ (← micros all "p50"), "    p95: " ++ (← micros all "p95"),
    "    p99: " ++ (← micros all "p99"), "", "  Per-Reason Latency Percentiles:"]
  let reasons ← (sortedEntries (← part report "reason_percentiles")).mapM (reasonLines report)
  let rollout ← part report "rollout"
  let shares := ["", "  Rollout:",
    "    configured: " ++ (← shown rollout "configured_pct") ++ "%",
    "    observed:   " ++ (← shown rollout "observed_pct") ++ "% of " ++
      (← shown rollout "decisions") ++ " decisions", "", "  Memory:"]
  let memory ← part report "memory"
  let sizes := ["    RSS before: " ++ (← shown memory "rss_before"),
    "    RSS after:  " ++ (← shown memory "rss_after"),
    "    RSS delta:  " ++ (← shown memory "rss_delta"), rule]
  return "\n".intercalate (head ++ latencies ++ reasons.flatten ++ shares ++ sizes)

end FeatureFlags.Benchmark.Report
