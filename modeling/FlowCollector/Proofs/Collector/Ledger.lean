import FlowCollector.Collector
import FlowCollector.Proofs.Workshop

/-!
# Runs of a collector, and what is written down of them

An `Event` is anything that can happen to a collector that nobody stops and whose consumer stays: a request,
or a single act of a single worker. A list of them is a run, and since acts stand in it one by one, at any
place between the requests, every order in which the workers can run is some list.

A `Ledger` is a collector together with what has gone in and come out of it so far. It is written by what the
collector answers and decodes, and the collector cannot see it.
-/

set_option autoImplicit false

namespace FlowCollector

/-- What happens to a collector while the consumer is there and nobody stops it. An `inject` is the attempt that does
not wait: a record for which there is no room is given up at once, as `Collector.inject` answers, and so the laws of
runs say nothing of one that waits for a place. What becomes of such a record is said where `Passage.enter` ends its
wait. -/
inductive Event where
  | start (network : Network)
  | arrive (index : Nat) (datagram : Datagram)
  | inject (record : FlowRecord)
  | receive
  | act (act : Act)

/-- A collector, and what has gone in and come out of it. `Ledger.step` writes it; no definition of the collector
reads it. -/
structure Ledger where
  collector : Collector
  /-- The datagrams that were taken into an intake queue, each with its input, in the order of their coming. -/
  accepted : List (Nat × Datagram)
  /-- The datagrams that were decoded, in the order in which they were, each as a `Decoding` with what came of it. -/
  decoded : List Decoding
  /-- The records that were put into the outgoing queue past the decoders, in their order. -/
  injected : List FlowRecord
  /-- The records that the consumer has received, in the order in which it did. -/
  received : List FlowRecord

namespace Ledger

def start (collector : Collector) : Ledger := ⟨collector, [], [], [], []⟩

/-- Writes down what one event does. A request that fails, and an act that `Workshop.perform?` cannot do, change
nothing. -/
def step (ledger : Ledger) : Event → Ledger
  | .start network =>
    match ledger.collector.start network with
    | .ok collector => { ledger with collector }
    | .error _ => ledger
  | .arrive index datagram =>
    match ledger.collector.arrive index datagram with
    | (.taken, collector) =>
      { ledger with collector, accepted := ledger.accepted ++ [(index, datagram)] }
    | (_, collector) => { ledger with collector }
  | .inject record =>
    match ledger.collector.inject record with
    | (.accepted, collector) => { ledger with collector, injected := ledger.injected ++ [record] }
    | (_, collector) => { ledger with collector }
  | .receive =>
    match ledger.collector.receive with
    | (.record record, collector) =>
      { ledger with collector, received := ledger.received ++ [record] }
    | (_, collector) => { ledger with collector }
  | .act act =>
    match ledger.collector.workshop.perform? act with
    | some workshop =>
      { ledger with
        collector := { ledger.collector with workshop }
        decoded := ledger.decoded ++ (ledger.collector.workshop.decoding? act).toList }
    | none => ledger

/-- Writes down what happens, one `step` after another. -/
def run (ledger : Ledger) (events : List Event) : Ledger := events.foldl step ledger

/-- The records that wait for the consumer in the `Outgoing` queue. -/
def waiting (ledger : Ledger) : List FlowRecord := ledger.collector.workshop.outgoing.waiting

/-- The records that workers hold unsent, a list for each worker that is not idle. A worker that still has its
datagram in hand holds the empty list. -/
def held (ledger : Ledger) : List (List FlowRecord) := ledger.collector.workshop.held

/-- The records of each datagram that was decoded, in the order of `decoded`. -/
def records (ledger : Ledger) : List (List FlowRecord) := ledger.decoded.map (·.outcome.records)

end Ledger

end FlowCollector
