namespace SensorGateway

/-- How a metric behaves: it only grows, it goes up and down, or it is a distribution of samples. -/
inductive MetricKind where
  | counter | gauge | histogram
  deriving DecidableEq, Repr

/-- The unit that a metric is counted in. -/
inductive MetricUnit where
  | count | percent | seconds | milliseconds | microseconds | nanoseconds | tebibytes | gibibytes | mebibytes
  | kibibytes | bytes | terabitsPerSecond | gigabitsPerSecond | megabitsPerSecond | kilobitsPerSecond
  | bitsPerSecond | countPerSecond
  deriving DecidableEq, Repr

/-- A metric as it is announced: its name and what is known about it. -/
structure MetricInfo where
  name : String
  kind : MetricKind
  description : String := ""
  unit : Option MetricUnit := none
  labels : List String := []
  deriving DecidableEq, Repr

/-- A metric of the gateway. -/
inductive Metric where
  | framesReceived | framesSent | framesDropped | bytesDiscarded | writeFailures | linkUp | reconnects
  | connectFailures | valuesForwarded | conversionFailures | unrouted | repliesSent | commandsSent
  | dispatchTime
  deriving DecidableEq, Repr

namespace MetricKind

/-- The word for the kind. -/
def name : MetricKind → String
  | .counter => "counter"
  | .gauge => "gauge"
  | .histogram => "histogram"

end MetricKind

namespace MetricUnit

/-- Every unit. -/
def all : List MetricUnit :=
  [.count, .percent, .seconds, .milliseconds, .microseconds, .nanoseconds, .tebibytes, .gibibytes,
   .mebibytes, .kibibytes, .bytes, .terabitsPerSecond, .gigabitsPerSecond, .megabitsPerSecond,
   .kilobitsPerSecond, .bitsPerSecond, .countPerSecond]

/-- The word for the unit. -/
def name : MetricUnit → String
  | .count => "count"
  | .percent => "percent"
  | .seconds => "seconds"
  | .milliseconds => "milliseconds"
  | .microseconds => "microseconds"
  | .nanoseconds => "nanoseconds"
  | .tebibytes => "tebibytes"
  | .gibibytes => "gibibytes"
  | .mebibytes => "mebibytes"
  | .kibibytes => "kibibytes"
  | .bytes => "bytes"
  | .terabitsPerSecond => "terabits_per_second"
  | .gigabitsPerSecond => "gigabits_per_second"
  | .megabitsPerSecond => "megabits_per_second"
  | .kilobitsPerSecond => "kilobits_per_second"
  | .bitsPerSecond => "bits_per_second"
  | .countPerSecond => "count_per_second"

/-- The unit that a word stands for. -/
def ofName? (name : String) : Option MetricUnit := all.find? (·.name = name)

end MetricUnit

namespace MetricInfo

/-- What a recorder is told about a metric: kind, name, unit and description. -/
def announcement (info : MetricInfo) : MetricKind × String × Option MetricUnit × String :=
  (info.kind, info.name, info.unit, info.description)

end MetricInfo

namespace Metric

/-- Every metric, those of links first. -/
def all : List Metric :=
  [.framesReceived, .framesSent, .framesDropped, .bytesDiscarded, .writeFailures, .linkUp, .reconnects,
   .connectFailures, .valuesForwarded, .conversionFailures, .unrouted, .repliesSent, .commandsSent,
   .dispatchTime]

/-- The labels of a metric that is kept for each link. -/
def linkLabels : List String := ["transport", "endpoint"]

/-- What is known about the metric. -/
def info : Metric → MetricInfo
  | .framesReceived =>
    ⟨"mysgw.link.frames_received", .counter, "Frames decoded and delivered", some .count, linkLabels⟩
  | .framesSent =>
    ⟨"mysgw.link.frames_sent", .counter, "Frames written to the gateway", some .count, linkLabels⟩
  | .framesDropped =>
    ⟨"mysgw.link.frames_dropped", .counter, "Received lines that failed to decode", some .count,
      linkLabels ++ ["reason"]⟩
  | .bytesDiscarded =>
    ⟨"mysgw.link.bytes_discarded", .counter, "Unterminated input discarded by the line codec",
      some .bytes, linkLabels⟩
  | .writeFailures =>
    ⟨"mysgw.link.write_failures", .counter, "Writes that failed with an I/O error", some .count, linkLabels⟩
  | .linkUp => ⟨"mysgw.gateway.link_up", .gauge, "1 while a link is open, 0 while absent", none, []⟩
  | .reconnects =>
    ⟨"mysgw.gateway.reconnects", .counter, "Links torn down and reopened by the health check",
      some .count, []⟩
  | .connectFailures =>
    ⟨"mysgw.gateway.connect_failures", .counter, "Attempts to open a link that failed", some .count, []⟩
  | .valuesForwarded =>
    ⟨"mysgw.gateway.values_forwarded", .counter, "Inbound values posted to the state store",
      some .count, ["value_type"]⟩
  | .conversionFailures =>
    ⟨"mysgw.gateway.conversion_failures", .counter, "Values that could not be converted", some .count,
      ["value_type", "direction"]⟩
  | .unrouted =>
    ⟨"mysgw.gateway.unrouted", .counter, "Frames dropped because no item is bound to them",
      some .count, []⟩
  | .repliesSent =>
    ⟨"mysgw.gateway.replies_sent", .counter, "Replies and acknowledgements written", some .count,
      ["sub_type"]⟩
  | .commandsSent =>
    ⟨"mysgw.gateway.commands_sent", .counter, "Host commands written to the gateway", some .count, []⟩
  | .dispatchTime =>
    ⟨"mysgw.gateway.dispatch_time_us", .histogram, "Time spent routing one inbound frame",
      some .microseconds, []⟩

end Metric

end SensorGateway
