import FlowCollector.Collector
import FlowCollector.Json

/-!
# Reports

What a daemon says about itself: how its collector is doing, and the counts. A report is a copy of the
moment it was made, and its counts may be those of several machines put together, so exporters are named by
text here. As JSON, counts by name stand in the order of their names.
-/

set_option autoImplicit false

namespace FlowCollector

/-- The counts of a moment, copied from `Stats` by `Stats.snapshot`. -/
structure Snapshot where
  /-- Datagrams received, by input. -/
  received : List Nat
  /-- Datagrams dropped, by input. -/
  dropped : List Nat
  decodeErrors : List (Reason × Nat)
  /-- Data sets without a template, by exporter, which is named by its text here. -/
  missingTemplates : List (String × Nat)
  recordsDecoded : Nat
  templatesUpserted : Nat
  deriving DecidableEq, Repr

/-- What a daemon says about itself, as `Collector.report` makes it. -/
structure Report where
  health : Health
  /-- The name of the `Phase` the collector is in. -/
  state : String
  uptimeSecs : UInt64
  outgoingLength : Nat
  counts : Snapshot
  deriving DecidableEq, Repr

/-- The counts of this moment. Exporters are named by `IpAddress.text`. -/
def Stats.snapshot (stats : Stats) : Snapshot where
  received := stats.inputs.map (·.received)
  dropped := stats.inputs.map (·.dropped)
  decodeErrors := Reason.all.map fun reason => (reason, Tally.count stats.decodeErrors reason)
  missingTemplates :=
    stats.missingTemplates.entries.map fun (exporter, count) => (exporter.text, count)
  recordsDecoded := stats.recordsDecoded
  templatesUpserted := stats.templatesUpserted

/-- A collector's report of this moment. How long it has run is told by the caller, since there is no clock here. -/
def Collector.report (collector : Collector) (uptimeSecs : UInt64) : Report where
  health := collector.health
  state := collector.phase.name
  uptimeSecs := uptimeSecs
  outgoingLength := collector.workshop.outgoing.length
  counts := collector.stats.snapshot

namespace Report

/-- The sum of counts, as a word of sixty-four bits, which wraps around. -/
def total (counts : List Nat) : UInt64 := .ofNat (sumOf id counts)

/-- All datagrams received, at all inputs together. -/
def totalReceived (report : Report) : UInt64 := total report.counts.received

/-- All datagrams dropped, at all inputs together. -/
def totalDropped (report : Report) : UInt64 := total report.counts.dropped

end Report

/-- Counts as an object, in the order of their names, which is not that in which they were counted. -/
def Json.counts (counts : List (String × Nat)) : Json :=
  .record ((counts.mergeSort fun x y => !(y.1 < x.1)).map fun (name, count) =>
    (name, .natural count))

/-- Counts of a moment as an object, with `Json.counts` for those by name. -/
def Snapshot.toJson (snapshot : Snapshot) : Json :=
  .record [("received", .array (snapshot.received.map .natural)),
    ("dropped", .array (snapshot.dropped.map .natural)),
    ("decode_errors", .counts (snapshot.decodeErrors.map fun (reason, count) =>
      (reason.label, count))),
    ("missing_templates", .counts snapshot.missingTemplates),
    ("records_decoded", .natural snapshot.recordsDecoded),
    ("templates_upserted", .natural snapshot.templatesUpserted)]

def Health.toJson : Health → Json
  | healthy => .text "Healthy"
  | degraded reason => .record [("Degraded", .text reason)]
  | unhealthy reason => .record [("Unhealthy", .text reason)]

/-- A report as an object, with `Snapshot.toJson` and `Health.toJson` for its parts. -/
def Report.toJson (report : Report) : Json :=
  .record [("status", report.health.toJson),
    ("state", .text report.state),
    ("uptime_secs", .natural report.uptimeSecs.toNat),
    ("outgoing_len", .natural report.outgoingLength),
    ("stats", report.counts.toJson)]

end FlowCollector
