import FlowCollector.Failure
import FlowCollector.Health
import FlowCollector.Workshop.Settle

/-!
# Collectors

A `Collector` binds its inputs, lets its workers decode what arrives, and hands the records on through one queue. It
is started once, stopped once, and can not be started again: `Phase` says how far it is.

What the system answers is an input here: which addresses an input can have is up to a `Network`, and when a datagram
arrives up to whoever calls `Collector.arrive`. Nothing waits: a request is answered at once, and `Collector.settle`
lets the workers run. Three things that do wait in the program come out differently for that.

A stop waits for the workers, for at most the drain timeout. `Collector.stop` has them act for as long as they can and
then does `Collector.giveUp`, and nobody asks for anything in between, so there is no phase of stopping. A record that
is injected into a full queue waits there in the program. `Collector.inject` gives it up, and
Proofs/Collector/Injection says what becomes of one that waits. Receive workers are not modelled: a datagram that is
sent to a running input gets as far as its intake queue, and a receive worker that has ended by an error of its socket
does not occur.
-/

set_option autoImplicit false

namespace FlowCollector

/-- What the system answers when inputs, by number, ask to listen at an address: the address they got, or why not. -/
abbrev Network := (index : Nat) → SocketAddress → Except String SocketAddress

/-- Where a collector is in its life. The program is also stopping, between the request and the end of a stop, and
refuses a start then as it does when it runs; since `Collector.stop` is done at once, nobody meets a collector there. -/
inductive Phase where
  | created
  | started
  | stopped
  deriving DecidableEq, Repr

def Phase.name : Phase → String
  | created => "created"
  | started => "started"
  | stopped => "stopped"

/-- A collector, running or not. -/
structure Collector where
  setup : Setup
  phase : Phase
  /-- The addresses that the inputs got, in the order of `Setup.inputs`, none before the start. They stay after a
  stop. -/
  addresses : List SocketAddress
  workshop : Workshop
  deriving DecidableEq

/-- What becomes of a datagram that is sent to an input, told by `Collector.arrive`. -/
inductive Arrival where
  /-- No input has ever got an address by that number. -/
  | noSuchAddress
  | notRunning
  | taken
  | dropped
  deriving DecidableEq, Repr

/-- What a record that is refused fails with. A record that `Collector.inject` gives up, because it would have to
wait, is no failure. -/
def Injection.error? : Injection → Option CollectorError
  | accepted => none
  | wouldWait => none
  | refused => some .outgoingClosed

namespace Collector

/-- A collector of a setup that has been checked. It has no inputs yet: `Collector.start` makes them of
`Setup.inputs`. -/
def create (setup : Setup) : Collector where
  setup := setup
  phase := .created
  addresses := []
  workshop :=
    { store := ∅
      monitor := .start setup.inputs.length
      inputs := []
      hands := []
      outgoing := .start setup.outgoingQueueSize.toNat }

/-- A collector of a setup, unless `Setup.check` finds that it asks for something that cannot be. -/
def build (setup : Setup) : Except CollectorError Collector := do
  setup.check.mapError .setup
  return create setup

/-- Lets inputs, which are numbered from `index` on, ask for their addresses. The first that gets none ends it, and
the addresses that others got are given back. -/
def bindAll (network : Network) (index : Nat) :
    List InputSetup → Except CollectorError (List SocketAddress)
  | [] => .ok []
  | input :: others =>
    match network index input.listen with
    | .error reason => .error (.bind input.listen reason)
    | .ok address => do return address :: (← bindAll network (index + 1) others)

/-- Starts a collector, if it is `Phase.created` and each input gets an address by `bindAll`. A start that fails
changes nothing, and so `Collector.start` can be asked again. -/
def start (collector : Collector) (network : Network) : Except Failure Collector :=
  match collector.phase with
  | .started => .error .alreadyRunning
  | .stopped => .error .startAfterStop
  | .created => do
    let addresses ← (bindAll network 0 collector.setup.inputs).mapError .collector
    return { collector with
      phase := .started
      addresses
      workshop.inputs := collector.setup.inputs.map .start }

/-- Lets the workers act, by `Workshop.settle`, until each of them waits. -/
def settle (collector : Collector) : Collector :=
  { collector with workshop := collector.workshop.settle }

/-- True when the workers can finish their work without anyone receiving records: `stop` loses nothing then. Otherwise
a stop waits for as long as it may, and does `giveUp`. -/
def drains (collector : Collector) : Bool :=
  collector.workshop.settle.outgoing.senders.isEmpty

/-- Ends a running collector at once, as `stop` does when the drain timeout has elapsed: the workers are gone, and with
them the datagrams that waited for them and the records in their hands. What waits in the outgoing queue can still be
received. -/
def giveUp (collector : Collector) : Collector :=
  { collector with
    phase := .stopped
    workshop := { collector.workshop with
      inputs := []
      hands := []
      outgoing := collector.workshop.outgoing.close
      monitor := collector.workshop.monitor.setOutgoing 0 } }

/-- Stops a collector that nobody receives from meanwhile: the workers do what they can, which is `settle`, and then
the collector does `giveUp` with what is left. The records that wait can still be received. -/
def stop (collector : Collector) : Collector :=
  match collector.phase with
  | .stopped => collector
  | .created =>
    { collector with
      phase := .stopped
      workshop.outgoing := collector.workshop.outgoing.close }
  | .started => collector.settle.giveUp

/-- A datagram arrives at an input and is offered to its intake queue (`Intake.offer`). Only an address can be sent
to, whether anyone still listens there or not. -/
def arrive (collector : Collector) (index : Nat) (datagram : Datagram) : Arrival × Collector :=
  if collector.addresses.length ≤ index then (.noSuchAddress, collector)
  else if collector.phase = .started then
    match collector.workshop.inputs[index]? with
    | none => (.noSuchAddress, collector)
    | some input =>
      let (taken, intake, monitor) :=
        input.intake.offer index datagram collector.workshop.monitor
      (if taken then .taken else .dropped,
        { collector with
          workshop.inputs := collector.workshop.inputs.set index { input with intake }
          workshop.monitor := monitor })
  else (.notRunning, collector)

/-- Puts a record into the outgoing queue as it is, past the decoders. Where no place is free the record is given up
at once, and the answer is `Injection.wouldWait`. In the program it waits for a place, in the order of asking. -/
def inject (collector : Collector) (record : FlowRecord) : Injection × Collector :=
  if !collector.workshop.outgoing.isOpen then (.refused, collector)
  else if collector.workshop.outgoing.hasRoom then
    (.accepted,
      { collector with workshop.outgoing := collector.workshop.outgoing.put record })
  else (.wouldWait, collector)

/-- The consumer receives a record, the oldest of `Outgoing.waiting`. `Received.closed` comes only once the queue is
empty and nobody can send any more. -/
def receive (collector : Collector) : Received × Collector :=
  if !collector.workshop.outgoing.receiving then (.noReceiver, collector)
  else
    match collector.workshop.outgoing.pop? with
    | some (record, outgoing) =>
      (.record record, { collector with workshop.outgoing := outgoing })
    | none =>
      (if collector.workshop.outgoing.sending then .empty else .closed, collector)

/-- The consumer goes. A worker that waits to send ends, and so does one that gets something to send (`Workshop.ask`).
Inputs that have no worker left lose what waits there, by `Workshop.abandonInputs`. -/
def dropReceiver (collector : Collector) : Collector :=
  let deserted : Workshop :=
    { collector.workshop with outgoing := collector.workshop.outgoing.dropReceiver }
  { collector with workshop := deserted.abandonInputs }

/-- How a collector is doing, by its phase and by how full the outgoing queue is (`Health.ofOccupancy`). The program
looks at its receive workers first, and is degraded when one of them has exited. That branch is left out, since
receive workers are not modelled here, so a collector may be healthy here where the program is not, and never the
other way. -/
def health (collector : Collector) : Health :=
  match collector.phase with
  | .created => .unhealthy "not started"
  | .stopped => .unhealthy "stopped"
  | .started =>
    .ofOccupancy collector.workshop.outgoing.length collector.setup.outgoingQueueSize.toNat

/-- The counts of a collector's work, which the workers and the inputs keep in `Workshop.monitor`. -/
def stats (collector : Collector) : Stats := collector.workshop.monitor.stats

/-! ## Receiving all there is -/

theorem receive_less {collector after : Collector} {record : FlowRecord}
    (h : collector.receive = (.record record, after)) :
    after.workshop.backlog = collector.workshop.backlog
      ∧ after.workshop.pending < collector.workshop.pending := by
  unfold receive at h
  split at h
  · cases h
  · split at h
    case _ outgoing popped =>
      obtain ⟨-, rfl⟩ := Prod.mk.inj h
      unfold Outgoing.pop? at popped
      split at popped
      · cases popped
      case _ waits =>
        obtain ⟨-, rfl⟩ := Prod.mk.inj (Option.some.inj popped)
        exact ⟨rfl, by simp only [Workshop.pending, waits, List.length_cons]; omega⟩
    · split at h <;> cases h

theorem receive_settle_less {collector after : Collector} {record : FlowRecord}
    (h : collector.receive = (.record record, after)) :
    Prod.Lex (· < ·) (· < ·)
      (after.settle.workshop.backlog, after.settle.workshop.pending)
      (collector.workshop.backlog, collector.workshop.pending) := by
  obtain ⟨same, less⟩ := receive_less h
  refine Prod.lex_def.2 ?_
  rcases Workshop.settle_le after.workshop with settled | settled
  · simp only [settle, settled]
    omega
  · have settled := Prod.lex_def.1 settled
    simp only [settle] at *
    omega

/-- Receives records, letting the workers run after each by `settle`, until nothing more comes. Gives the records and
the last answer, which is none of `Received.record`. -/
def drain (collector : Collector) : List FlowRecord × Received × Collector :=
  match _received : collector.receive with
  | (.record record, after) =>
    let (records, ending, last) := drain after.settle
    (record :: records, ending, last)
  | (ending, after) => ([], ending, after)
termination_by (collector.workshop.backlog, collector.workshop.pending)
decreasing_by exact receive_settle_less _received

end Collector

end FlowCollector
