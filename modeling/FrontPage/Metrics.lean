import FrontPage.Flag

/-!
# Metrics

Everything that is counted is a `Counter`; `Metrics` holds how often each came up, and a gauge of the rows in the
roster. `Metrics.lines` writes what was counted in the text format of metrics, sorted.
-/

namespace FrontPage

/-- How the classification of an article ended. -/
inductive ClassificationOutcome where
  | skipped
  | deleted
  | upserted
  | error
  deriving DecidableEq, Repr

/-- How the rendering of a layout ended. -/
inductive RenderStatus where
  | added
  | skipped
  | error
  deriving DecidableEq, Repr

/-- Whether a write is waited for. -/
inductive WriteMode where
  | sync
  | async
  deriving DecidableEq, Repr

/-- Something that is counted. -/
inductive Counter where
  | query (operation : String) (succeeded : Bool)
  | classification (operation : String) (outcome : ClassificationOutcome)
  | denial (flag : Flag)
  | layout (status : RenderStatus)
  | artifactWrite (mode : WriteMode) (succeeded : Bool)
  | cacheRequest (cache : String) (hit : Bool)
  | request (endpoint method : String) (status : Nat)
  deriving DecidableEq, Repr

/-- The name of an outcome. -/
def ClassificationOutcome.name : ClassificationOutcome → String
  | .skipped => "skipped"
  | .deleted => "deleted"
  | .upserted => "upserted"
  | .error => "error"

/-- The name of a status. -/
def RenderStatus.name : RenderStatus → String
  | .added => "added"
  | .skipped => "skipped"
  | .error => "error"

/-- The name of a mode. -/
def WriteMode.name : WriteMode → String
  | .sync => "sync"
  | .async => "async"

namespace Counter

/-- Success or error. -/
def successName (succeeded : Bool) : String := if succeeded then "success" else "error"

/-- The name of what is counted. -/
def family : Counter → String
  | query .. => "db_queries_total"
  | classification .. => "classifications_total"
  | denial .. => "capacity_denials_total"
  | layout .. => "layouts_rendered_total"
  | artifactWrite .. => "artifact_writes_total"
  | cacheRequest .. => "cache_requests_total"
  | request .. => "api_requests_total"

/-- The labels that tell counters of one name apart, in alphabetical order. -/
def labels : Counter → List (String × String)
  | query operation succeeded => [("operation", operation), ("status", successName succeeded)]
  | classification operation outcome => [("operation", operation), ("outcome", outcome.name)]
  | denial flag => [("flag", flag.column)]
  | layout status => [("status", status.name)]
  | artifactWrite mode succeeded => [("mode", mode.name), ("status", successName succeeded)]
  | cacheRequest cache hit => [("cache", cache), ("result", if hit then "hit" else "miss")]
  | request endpoint method status =>
    [("endpoint", endpoint), ("method", method), ("status_code", toString status)]

/-- A label's value with backslashes, quotes and line ends escaped. -/
def escapeLabel (value : String) : String :=
  String.ofList (value.toList.flatMap fun c =>
    if c = '\\' then ['\\', '\\'] else if c = '"' then ['\\', '"'] else if c = '\n' then ['\\', 'n'] else [c])

end Counter

/-- The first letters of the names of all metrics. -/
def metricsNamespace : String := "article_groups_"

/-- How often everything came up, in the order in which it first did, and the rows in the roster. -/
structure Metrics where
  counts : List (Counter × Nat) := []
  rosterRows : Nat := 0

namespace Metrics

/-- How often something came up. -/
def count (metrics : Metrics) (counter : Counter) : Nat := (metrics.counts.lookup counter).getD 0

/-- The counts with one more of something. -/
def increment (counter : Counter) : List (Counter × Nat) → List (Counter × Nat)
  | [] => [(counter, 1)]
  | (c, n) :: rest => if c = counter then (c, n + 1) :: rest else (c, n) :: increment counter rest

/-- The metrics after something came up. -/
def record (metrics : Metrics) (counter : Counter) : Metrics :=
  { metrics with counts := increment counter metrics.counts }

/-- The metrics after several things came up. -/
def recordAll (metrics : Metrics) (counters : List Counter) : Metrics := counters.foldl record metrics

/-- The line of a counter. -/
def line (counter : Counter) (n : Nat) : String :=
  let labels := counter.labels.map fun (name, value) => name ++ "=\"" ++ Counter.escapeLabel value ++ "\""
  metricsNamespace ++ counter.family ++ "\x7b" ++ ",".intercalate labels ++ "\x7d " ++ toString n ++ ".0"

/-- All lines, sorted by code point. -/
def lines (metrics : Metrics) : List String :=
  let gauge := metricsNamespace ++ "mirror_records_total " ++ toString metrics.rosterRows ++ ".0"
  (gauge :: metrics.counts.map fun (counter, n) => line counter n).mergeSort fun a b => a ≤ b

/-- What came up is counted once more. -/
@[simp] theorem lookup_increment_self (counter : Counter) (counts : List (Counter × Nat)) :
    ((increment counter counts).lookup counter).getD 0 = (counts.lookup counter).getD 0 + 1 := by
  induction counts with
  | nil => simp [increment]
  | cons e rest ih =>
    obtain ⟨c, n⟩ := e
    by_cases h : c = counter
    · simp [increment, h]
    · have h' : (counter == c) = false := beq_eq_false_iff_ne.mpr fun e => h e.symm
      simpa [increment, List.lookup_cons, h, h'] using ih

end Metrics

end FrontPage
