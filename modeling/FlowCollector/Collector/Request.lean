import FlowCollector.Collector

/-!
# Asking a collector

Every way of asking a collector something is a `Collector.Request`, with what it answers as an `Answer`.
`Collector.serve` answers one request and lets the workers act until each of them waits, so between two requests
nothing is left that could happen by itself. `Collector.serveAll` is a whole conversation.
-/

set_option autoImplicit false

namespace FlowCollector.Collector

/-- What a collector can be asked. What the system answers to a start (a `Network`), and what arrives, comes with the
request. -/
inductive Request where
  | start (network : Network)
  | stop
  | arrive (index : Nat) (datagram : Datagram)
  | inject (record : FlowRecord)
  | receive
  | drain
  | dropReceiver

/-- What a collector answers, whatever it was asked. -/
inductive Answer where
  | done
  | failed (failure : Failure)
  | arrival (arrival : Arrival)
  | injection (injection : Injection)
  | received (received : Received)
  | drained (records : List FlowRecord) (ending : Received)
  deriving DecidableEq

/-- Answers a request at once, by the function of `Collector` of that name. A start that fails leaves the collector as
it is. -/
def answer (collector : Collector) : Request → Answer × Collector
  | .start network =>
    match collector.start network with
    | .ok started => (.done, started)
    | .error failure => (.failed failure, collector)
  | .stop => (.done, collector.stop)
  | .arrive index datagram =>
    let (arrival, after) := collector.arrive index datagram
    (.arrival arrival, after)
  | .inject record =>
    let (injection, after) := collector.inject record
    (.injection injection, after)
  | .receive =>
    let (received, after) := collector.receive
    (.received received, after)
  | .drain =>
    let (records, ending, after) := collector.drain
    (.drained records ending, after)
  | .dropReceiver => (.done, collector.dropReceiver)

/-- Answers a request, and lets the workers act by `Collector.settle` until each of them waits. -/
def serve (collector : Collector) (request : Request) : Answer × Collector :=
  let (answer, after) := collector.answer request
  (answer, after.settle)

def serveAll (collector : Collector) : List Request → List Answer × Collector
  | [] => ([], collector)
  | request :: others =>
    let (first, collector) := collector.serve request
    let (rest, collector) := collector.serveAll others
    (first :: rest, collector)

end FlowCollector.Collector
