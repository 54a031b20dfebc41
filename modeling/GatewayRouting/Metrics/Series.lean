import GatewayRouting.Metrics.Observation
import GatewayRouting.Text.Digits

/-!
# Series and their exposition

Observations are published as series: a metric with values for its labels, and a number for each.
An observation adds one to each of its series (`Observation.series`), so what a series shows is
how often it was added to. A metric of times shows how many times were taken.

The text format names each metric that has a series, says what it means and what type it is, and
lists its series.
-/

namespace GatewayRouting

/-- The types of metrics. -/
inductive MetricType where
  /-- a number that only grows -/
  | counter
  /-- a number that is set -/
  | gauge
  /-- a collection of samples -/
  | histogram
deriving DecidableEq, Repr

/-- How the text format names a type. -/
def MetricType.label : MetricType → String
  | .counter => "counter"
  | .gauge => "gauge"
  | .histogram => "histogram"

/-- What is published. -/
inductive Metric where
  /-- reads of a cache that had a value -/
  | cacheHits
  /-- reads of a cache that had none -/
  | cacheMisses
  /-- entries that left a cache -/
  | removals
  /-- entries that a cache holds -/
  | entries
  /-- times of calls to a cache -/
  | cacheSeconds
  /-- lookups -/
  | lookups
  /-- times of lookups -/
  | lookupSeconds
  /-- loads of the route list -/
  | loads
  /-- absorbed failures of a cache -/
  | cacheFailures
deriving DecidableEq, Repr

namespace Metric

/-- Every metric. -/
def all : List Metric :=
  [.cacheHits, .cacheMisses, .removals, .lookups, .loads, .cacheFailures, .entries, .cacheSeconds,
    .lookupSeconds]

/-- The name of a metric. -/
def name : Metric → String
  | .cacheHits => "waypoint_cache_hits_total"
  | .cacheMisses => "waypoint_cache_misses_total"
  | .removals => "waypoint_cache_evictions_total"
  | .entries => "waypoint_cache_entries"
  | .cacheSeconds => "waypoint_cache_operation_seconds"
  | .lookups => "waypoint_route_lookups_total"
  | .lookupSeconds => "waypoint_route_lookup_seconds"
  | .loads => "waypoint_repository_loads_total"
  | .cacheFailures => "waypoint_cache_errors_total"

/-- What a metric means. -/
def meaning : Metric → String
  | .cacheHits => "Route cache hits, by key kind"
  | .cacheMisses => "Route cache misses, by key kind"
  | .removals => "Route cache removals, by key kind and reason"
  | .entries => "Entries held by the route cache"
  | .cacheSeconds => "Route cache operation latency, by operation and key kind"
  | .lookups => "Total number of route lookups by outcome"
  | .lookupSeconds => "Time spent resolving a request path"
  | .loads => "Total number of route list loads from the repository"
  | .cacheFailures => "Cache failures absorbed by the resolver"

/-- The type of a metric. -/
def type : Metric → MetricType
  | .entries => .gauge
  | .cacheSeconds => .histogram
  | .lookupSeconds => .histogram
  | _ => .counter

end Metric

/-- A metric with values for its labels. -/
structure Series where
  /-- the metric -/
  metric : Metric
  /-- the labels with their values -/
  labels : List (String × String) := []
deriving DecidableEq, Repr

/-- The series that an observation adds one to. -/
def Observation.series : Observation → List Series
  | .cacheRead kind true => [⟨.cacheHits, [("kind", kind.label)]⟩]
  | .cacheRead kind false => [⟨.cacheMisses, [("kind", kind.label)]⟩]
  | .removal kind reason => [⟨.removals, [("kind", kind.label), ("reason", reason.label)]⟩]
  | .cacheCall call kind => [⟨.cacheSeconds, [("operation", call.label), ("kind", kind.label)]⟩]
  | .entries _ => []
  | .lookup outcome =>
    [⟨.lookups, [("outcome", outcome.label)]⟩, ⟨.lookupSeconds, [("outcome", outcome.label)]⟩]
  | .load => [⟨.loads, []⟩]
  | .cacheFailure call => [⟨.cacheFailures, [("operation", call.label)]⟩]

/-- Adds one to a series. -/
def tally : List (Series × Nat) → Series → List (Series × Nat)
  | [], series => [(series, 1)]
  | (known, n) :: counts, series =>
    if known = series then (known, n + 1) :: counts else (known, n) :: tally counts series

/-- The series of a list of observations, each with the number of times it was added to. -/
def seriesCounts (observed : List Observation) : List (Series × Nat) :=
  (observed.flatMap Observation.series).foldl tally []

/-- The number of entries that a cache said last, for observations the latest first. -/
def lastEntries? (observed : List Observation) : Option Nat :=
  observed.findSome? fun
    | .entries count => some count
    | _ => none

/-! ## The text format -/

/-- Labels in braces; without labels there are no braces. -/
def labelText (labels : List (String × String)) : String :=
  if labels.isEmpty then ""
  else
    let shown := labels.map fun label => label.1 ++ "=\"" ++ label.2 ++ "\""
    "\x7b" ++ String.intercalate "," shown ++ "\x7d"

/-- The line of a series. The number of samples has a name of its own. -/
def Series.line (series : Series) (value : Nat) : String :=
  let suffix := if series.metric.type = .histogram then "_count" else ""
  series.metric.name ++ suffix ++ labelText series.labels ++ " " ++
    String.ofList (decimalDigits value)

/-- The lines of a metric, or none if it has no series. -/
def Metric.lines (metric : Metric) (values : List (Series × Nat)) : List String :=
  match values.filter (·.1.metric = metric) with
  | [] => []
  | own =>
    ["# HELP " ++ metric.name ++ " " ++ metric.meaning,
      "# TYPE " ++ metric.name ++ " " ++ metric.type.label] ++
      own.map (fun value => value.1.line value.2) ++ [""]

/-- What was observed, the latest first, in the text format. -/
def exposition (observed : List Observation) : List String :=
  let values := seriesCounts observed ++
    (lastEntries? observed).toList.map fun count => (⟨.entries, []⟩, count)
  Metric.all.flatMap (·.lines values)

end GatewayRouting
