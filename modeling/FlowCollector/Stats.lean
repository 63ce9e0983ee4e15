import FlowCollector.Metric

/-!
# Statistics

What a collector can be asked about its work at any time. The same events move the statistics and the published
counters, and `Monitor.add` is the only way to move either, so the two never come apart.

Counts are natural numbers here, in `Stats` as in `Meters`. The program counts in words of 64 bits that every worker
adds to atomically. So many additions make no difference in which order they come, and the words would start again at
zero only after 2^64 events.
-/

set_option autoImplicit false

namespace FlowCollector

/-- What came in at one input. What was `dropped` was `received` as well. -/
structure InputStats where
  received : Nat
  dropped : Nat
  deriving DecidableEq, Repr

/-- Counts of a collector's work. `Meters` has the same, but for what is counted by `Protocol` there and all together
here. -/
structure Stats where
  inputs : List InputStats
  decodeErrors : Tally Reason
  missingTemplates : Tally IpAddress
  recordsDecoded : Nat
  templatesUpserted : Nat
  deriving DecidableEq

namespace Stats

/-- Before any work, for so many inputs, each with counts of its own from the start. -/
def start (inputs : Nat) : Stats := ⟨List.replicate inputs ⟨0, 0⟩, ∅, ∅, 0, 0⟩

/-- What an input received. There are no others than the `inputs`, so they received nothing. -/
def received (stats : Stats) (input : Nat) : Nat := (stats.inputs[input]?.map (·.received)).getD 0

/-- What an input dropped, in the same way as `received`. -/
def dropped (stats : Stats) (input : Nat) : Nat := (stats.inputs[input]?.map (·.dropped)).getD 0

/-- True of the counters that there are: an input must be one of the collector's. -/
def has (stats : Stats) : Counter → Bool
  | .received input => input < stats.inputs.length
  | .dropped input => input < stats.inputs.length
  | _ => true

/-- Adds to what a counter counts. `Monitor.add` is the only one to use it. -/
def add (stats : Stats) (counter : Counter) (amount : Nat) : Stats :=
  match counter with
  | .received input =>
    { stats with inputs := stats.inputs.modify input fun counts =>
        { counts with received := counts.received + amount } }
  | .dropped input =>
    { stats with inputs := stats.inputs.modify input fun counts =>
        { counts with dropped := counts.dropped + amount } }
  | .decodeErrors reason =>
    { stats with decodeErrors := Tally.add stats.decodeErrors reason amount }
  | .missingTemplates exporter =>
    { stats with missingTemplates := Tally.add stats.missingTemplates exporter amount }
  | .recordsDecoded _ => { stats with recordsDecoded := stats.recordsDecoded + amount }
  | .templatesUpserted => { stats with templatesUpserted := stats.templatesUpserted + amount }

end Stats

/-- The statistics of a collector, and what it publishes. `Monitor.add` moves both. -/
structure Monitor where
  stats : Stats
  meters : Meters
  deriving DecidableEq

namespace Monitor

/-- Before any work, for so many inputs. Nothing is published of what counts nothing. -/
def start (inputs : Nat) : Monitor := ⟨.start inputs, ∅⟩

/-- Adds to a counter in the statistics and in the meters, if there is one (`Stats.has`). -/
def add (monitor : Monitor) (counter : Counter) (amount : Nat) : Monitor :=
  if monitor.stats.has counter then
    ⟨monitor.stats.add counter amount, monitor.meters.add counter amount⟩
  else monitor

/-- Says how many records wait. The statistics have no such number, since they can be asked together with the
queue. -/
def setOutgoing (monitor : Monitor) (size : Nat) : Monitor :=
  { monitor with meters := monitor.meters.setOutgoing size }

/-- Counts an error that came of a datagram by its `reason`, and one of an unknown template by its exporter too. -/
def addError (exporter : IpAddress) (monitor : Monitor) (error : DecodeError) : Monitor :=
  let monitor := monitor.add (.decodeErrors error.reason) 1
  if error.reason = .unknownTemplate then monitor.add (.missingTemplates exporter) 1 else monitor

/-- Counts all that came of a datagram: a sample, each error by `addError`, the templates that were stored, and the
records. -/
def addDecoded (monitor : Monitor) (protocol : Protocol) (exporter : IpAddress)
    (decoded : Decoded) : Monitor :=
  let sampled : Monitor := { monitor with meters := monitor.meters.sample protocol }
  ((decoded.errors.foldl (addError exporter) sampled).add
    .templatesUpserted decoded.templatesUpserted).add
      (.recordsDecoded protocol) decoded.records.length

end Monitor

end FlowCollector
