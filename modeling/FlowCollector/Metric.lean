import FlowCollector.DecodeError
import FlowCollector.Protocol
import FlowCollector.Tally

/-!
# Metrics

What a collector publishes about its work, under the names that dashboards know (`Metric.name`). There are three
kinds: counters only grow, the gauge says how things stand, and the histogram has a sample for each datagram. Of a
sample only that there was one is kept, since how long decoding took is no fact about the datagram.

A metric appears in `Meters` when it is first touched. A counter that nothing was added to is absent, not zero.
Counters are natural numbers here, where the program counts in 64 bits and would start again at zero after the last of
them; no run of it gets as far as that.
-/

set_option autoImplicit false

namespace FlowCollector

/-- What is counted. Each counter is kept twice, in `Stats` and, once it is touched, in `Meters`. -/
inductive Counter where
  | received (input : Nat)
  /-- Datagrams that an input dropped because nobody could take them (`Intake.offer`). -/
  | dropped (input : Nat)
  | decodeErrors (reason : Reason)
  | missingTemplates (exporter : IpAddress)
  | recordsDecoded (protocol : Protocol)
  | templatesUpserted
  deriving DecidableEq, Repr

/-- The place of a kind of error in `Reason.all`. -/
def Reason.rank : Reason → Nat
  | malformedLength => 0
  | unknownTemplate => 1
  | truncated => 2
  | unsupportedField => 3
  | unsupportedVersion => 4

theorem Reason.rank_injective {k l : Reason} (h : k.rank = l.rank) : k = l := by
  cases k <;> cases l <;> simp_all [rank]

instance : Ranked Reason := ⟨Reason.rank, Reason.rank_injective⟩

def Protocol.rank : Protocol → Nat
  | netflow => 0
  | sflow => 1

theorem Protocol.rank_injective {k l : Protocol} (h : k.rank = l.rank) : k = l := by
  cases k <;> cases l <;> simp_all [rank]

instance : Ranked Protocol := ⟨Protocol.rank, Protocol.rank_injective⟩

instance : Ranked Nat := ⟨id, id⟩

namespace Counter

/-- The place of a counter among all, by which `Meters.counters` is sorted. -/
def rank : Counter → Nat
  | received input => 6 * input
  | dropped input => 6 * input + 1
  | decodeErrors reason => 6 * reason.rank + 2
  | missingTemplates exporter => 6 * exporter.rank + 3
  | recordsDecoded protocol => 6 * protocol.rank + 4
  | templatesUpserted => 5

theorem rank_injective {k l : Counter} (h : k.rank = l.rank) : k = l := by
  cases k <;> cases l <;> simp only [rank] at h <;> try omega
  case received.received i j => rw [show i = j by omega]
  case dropped.dropped i j => rw [show i = j by omega]
  case decodeErrors.decodeErrors r s =>
    rw [Reason.rank_injective (by omega : r.rank = s.rank)]
  case missingTemplates.missingTemplates x y =>
    rw [IpAddress.rank_injective (by omega : x.rank = y.rank)]
  case recordsDecoded.recordsDecoded p q =>
    rw [Protocol.rank_injective (by omega : p.rank = q.rank)]
  case templatesUpserted.templatesUpserted => rfl

instance : Ranked Counter := ⟨rank, rank_injective⟩

end Counter

inductive MetricKind where
  | counter
  | gauge
  | histogram
  deriving DecidableEq, Repr

def MetricKind.name : MetricKind → String
  | counter => "counter"
  | gauge => "gauge"
  | histogram => "histogram"

/-- The metrics there are, each with its `Metric.kind`, its `Metric.name` and its `Metric.help`. -/
inductive Metric where
  | received
  | dropped
  | decodeErrors
  | missingTemplates
  | recordsDecoded
  | templatesUpserted
  | outgoingQueueSize
  | decodeDuration
  | uptime
  | inputsConfigured
  deriving DecidableEq, Repr

namespace Metric

/-- Every metric, in the order in which they are described. -/
def all : List Metric :=
  [received, dropped, decodeErrors, missingTemplates, recordsDecoded, templatesUpserted,
    outgoingQueueSize, decodeDuration, uptime, inputsConfigured]

def kind : Metric → MetricKind
  | received => .counter
  | dropped => .counter
  | decodeErrors => .counter
  | missingTemplates => .counter
  | recordsDecoded => .counter
  | templatesUpserted => .counter
  | outgoingQueueSize => .gauge
  | decodeDuration => .histogram
  | uptime => .gauge
  | inputsConfigured => .gauge

/-- The name under which a metric is published. -/
def name : Metric → String
  | received => "ironflow_flow_datagrams_received_total"
  | dropped => "ironflow_flow_datagrams_dropped_total"
  | decodeErrors => "ironflow_flow_decode_errors_total"
  | missingTemplates => "ironflow_flow_missing_templates_total"
  | recordsDecoded => "ironflow_flow_records_decoded_total"
  | templatesUpserted => "ironflow_flow_templates_upserted_total"
  | outgoingQueueSize => "ironflow_flow_outgoing_queue_size"
  | decodeDuration => "ironflow_flow_decode_duration_seconds"
  | uptime => "ironflow_daemon_uptime_seconds"
  | inputsConfigured => "ironflow_daemon_inputs_configured"

def help : Metric → String
  | received => "Total number of UDP datagrams received per input"
  | dropped => "Total number of datagrams dropped because the intake queue was full"
  | decodeErrors => "Total number of non-fatal decode errors by reason"
  | missingTemplates => "Total number of data sets dropped for lack of a template, per exporter"
  | recordsDecoded => "Total number of normalized flow records produced"
  | templatesUpserted => "Total number of template definitions stored or replaced"
  | outgoingQueueSize => "Current number of records waiting in the outgoing queue"
  | decodeDuration => "Time to decode a single datagram in seconds"
  | uptime => "Ironflow daemon uptime in seconds"
  | inputsConfigured => "Number of flow inputs configured in the daemon"

/-- The upper bounds of the histogram, in microseconds. -/
def durationBounds : List Nat := [1, 5, 10, 50, 100, 500, 1000, 5000, 10000]

/-- A number of microseconds in seconds, as the shortest decimal fraction. -/
def secondsText (microseconds : Nat) : String :=
  let digits := Numeral.write 10 (microseconds % 1000000)
  let padded := List.replicate (6 - digits.length) '0' ++ digits
  let fraction := (padded.reverse.dropWhile (· == '0')).reverse
  let whole := Numeral.write 10 (microseconds / 1000000)
  .ofList (if fraction.isEmpty then whole else whole ++ '.' :: fraction)

/-- A metric with the label that tells its series apart, if it has one. -/
def series (metric : Metric) : Option (String × String) → String
  | none => metric.name ++ "\x7b\x7d"
  | some (label, value) => metric.name ++ "\x7b" ++ label ++ "=" ++ value ++ "\x7d"

end Metric

/-- The series that a counter is published in: its metric, and a label for the input, the reason, the exporter or the
protocol. -/
def Counter.series : Counter → String
  | received input => Metric.received.series (some ("input", toString input))
  | dropped input => Metric.dropped.series (some ("input", toString input))
  | decodeErrors reason => Metric.decodeErrors.series (some ("reason", reason.label))
  | missingTemplates exporter => Metric.missingTemplates.series (some ("exporter", exporter.text))
  | recordsDecoded protocol => Metric.recordsDecoded.series (some ("decoder", protocol.name))
  | templatesUpserted => Metric.templatesUpserted.series none

def Protocol.durationSeries (protocol : Protocol) : String :=
  Metric.decodeDuration.series (some ("decoder", protocol.name))

/-- What has been published so far. -/
structure Meters where
  counters : Tally Counter
  /-- How many records waited when that was last said, by `Meters.setOutgoing`. It is said when a worker has sent all
  that it held and when a running collector stops, and not when a record is received, so it may be more than waits
  now. -/
  outgoingQueueSize : Option Nat
  decodeSamples : Tally Protocol
  deriving DecidableEq

namespace Meters

def empty : Meters := ⟨∅, none, ∅⟩

instance : EmptyCollection Meters := ⟨empty⟩

/-- Adds to a counter by `Tally.add`. It is there once something was added, and adding nothing does not make it so. -/
def add (meters : Meters) (counter : Counter) (amount : Nat) : Meters :=
  { meters with counters := Tally.add meters.counters counter amount }

def setOutgoing (meters : Meters) (size : Nat) : Meters :=
  { meters with outgoingQueueSize := some size }

/-- Adds a sample for a decoded datagram. -/
def sample (meters : Meters) (protocol : Protocol) : Meters :=
  { meters with decodeSamples := Tally.add meters.decodeSamples protocol 1 }

end Meters

end FlowCollector
