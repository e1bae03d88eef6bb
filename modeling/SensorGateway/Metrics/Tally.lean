import SensorGateway.Metrics.Catalog

namespace SensorGateway

/-- A metric with values for its labels. -/
structure Series where
  metric : Metric
  labels : List (String × String)
  deriving DecidableEq, Repr

/-- A number for each series touched, in the order of the first touch. For a histogram it is the
number of samples. -/
structure Tally where
  entries : List (Series × Nat)
  deriving DecidableEq, Repr

namespace Series

/-- The name of the metric, and the labels with their values where there are any. -/
def text (s : Series) : String :=
  let pairs := s.labels.map fun (key, value) => key ++ "=" ++ value
  if pairs.isEmpty then s.metric.info.name
  else s.metric.info.name ++ "\x7b" ++ ",".intercalate pairs ++ "\x7d"

end Series

namespace Tally

/-- The tally of nothing. -/
def empty : Tally := ⟨[]⟩

/-- The entries with the number of a series changed; it counts as 0 before the first touch. -/
def alter (series : Series) (change : Nat → Nat) : List (Series × Nat) → List (Series × Nat)
  | [] => [(series, change 0)]
  | (other, n) :: rest =>
    if other = series then (series, change n) :: rest else (other, n) :: alter series change rest

/-- Counts more of a series. -/
def add (tally : Tally) (metric : Metric) (labels : List (String × String)) (amount : Nat) : Tally :=
  ⟨alter ⟨metric, labels⟩ (· + amount) tally.entries⟩

/-- Sets the number of a series. -/
def set (tally : Tally) (metric : Metric) (labels : List (String × String)) (value : Nat) : Tally :=
  ⟨alter ⟨metric, labels⟩ (fun _ => value) tally.entries⟩

/-- The number of a series, if it was touched. -/
def get? (tally : Tally) (series : Series) : Option Nat :=
  tally.entries.lookup series

/-- The sum over all series of a metric. -/
def total (tally : Tally) (metric : Metric) : Nat :=
  (tally.entries.filter (·.1.metric = metric)).foldr (fun entry sum => entry.2 + sum) 0

/-- The counts of two tallies together. -/
def merge (a b : Tally) : Tally :=
  b.entries.foldl (fun sum (series, n) => sum.add series.metric series.labels n) a

end Tally

end SensorGateway
