import NodeFeatureOperator.Decimal.Shortest
import NodeFeatureOperator.Error
import NodeFeatureOperator.Instance

/-!
# Metrics

What the operator counts and measures, and the text in which it is published: how long the passes
took, how often they failed and with which error, and how many there were.
-/

namespace NodeFeatureOperator

/-- What a failure is counted under. -/
structure FailureLabels where
  subject : String
  error : String
deriving DecidableEq, Repr, Inhabited

instance : Ord FailureLabels where
  compare a b := (compare a.subject b.subject).then (compare a.error b.error)

/-- What the operator counts and measures. -/
structure Metrics where
  runs : Nat := 0
  failures : Table FailureLabels Nat := []
  /-- How long the passes took in seconds, the first one first. -/
  durations : List Binary64 := []
deriving Inhabited

namespace Metrics

/-- One more pass. -/
def countRun (m : Metrics) : Metrics := { m with runs := m.runs + 1 }

/-- One more measured pass. -/
def observe (m : Metrics) (d : Duration) : Metrics :=
  { m with durations := m.durations ++ [Binary64.ofQuotient d.toMillis 1000] }

/-- One more failed pass. -/
def countFailure (m : Metrics) (id : InstanceId) (e : Error) : Metrics :=
  let labels : FailureLabels := ⟨id.toText, e.label⟩
  { m with failures := Table.insert m.failures labels ((Table.get? m.failures labels).getD 0 + 1) }

/-- The bounds between which durations are told apart, in seconds. -/
def bounds : List Binary64 :=
  [(1, 100), (1, 10), (1, 4), (1, 2), (1, 1), (5, 1), (15, 1), (60, 1)].map fun (num, den) =>
    Binary64.ofQuotient num den

/-- The sum of all durations. -/
def total (m : Metrics) : Binary64 := m.durations.foldl Binary64.add (Binary64.ofQuotient 0 1)

/-- The number of durations up to a bound. -/
def upTo (m : Metrics) (bound : Binary64) : Nat :=
  (m.durations.filter fun d => Binary64.le d bound).length

/-- What the name of every metric starts with. -/
def lead : String := "nfd_reconcile_"

/-- The lines that describe a metric. -/
def header (name help type : String) : List String :=
  ["# HELP " ++ lead ++ name ++ " " ++ help ++ ".", "# TYPE " ++ lead ++ name ++ " " ++ type]

/-- The line of a value. -/
def line (name labels value : String) : String := lead ++ name ++ labels ++ " " ++ value

/-- Labels in their braces. -/
def labels (pairs : List (String × String)) : String :=
  "\x7b" ++ ",".intercalate (pairs.map fun p => p.1 ++ "=\"" ++ p.2 ++ "\"") ++ "\x7d"

/-- The lines on durations. -/
def durationLines (m : Metrics) : List String :=
  let name := "duration_seconds"
  let bucket (bound : String) (n : Nat) : String :=
    line (name ++ "_bucket") (labels [("le", bound)]) (toString n)
  header name "reconcile duration" "histogram"
    ++ ["# UNIT " ++ lead ++ name ++ " seconds",
      line (name ++ "_sum") "" (Binary64.toText m.total),
      line (name ++ "_count") "" (toString m.durations.length)]
    ++ bounds.map (fun b => bucket (Binary64.toText b) (m.upTo b))
    ++ [bucket "+Inf" m.durations.length]

/-- The lines on failures. -/
def failureLines (m : Metrics) : List String :=
  header "failures" "reconciliation errors" "counter"
    ++ m.failures.map fun row =>
      line "failures_total" (labels [("instance", row.1.subject), ("error", row.1.error)])
        (toString row.2)

/-- The lines on passes. -/
def runLines (m : Metrics) : List String :=
  header "runs" "reconciliations" "counter" ++ [line "runs_total" "" (toString m.runs)]

/-- The published text. -/
def toText (m : Metrics) : String :=
  String.join ((m.durationLines ++ m.failureLines ++ m.runLines ++ ["# EOF"]).map (· ++ "\n"))

end Metrics

end NodeFeatureOperator
