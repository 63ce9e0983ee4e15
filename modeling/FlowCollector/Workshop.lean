import FlowCollector.Intake
import FlowCollector.Outgoing
import FlowCollector.Setup

/-!
# The workers

Decode workers take datagrams from the intake queues and send what they decode to the one outgoing queue.
`Workshop.perform?` is a single act of a single worker. Between two acts nothing changes, what an act does depends on
the workshop alone, and any order of acts is one in which the workers may go on. `Workshop.settle` lets the workers
act until each of them waits.

An act touches the intake queue of one input, or the templates, or the outgoing queue, and never two of them. What a
worker has taken and not yet passed on is in its hands meanwhile, where nobody else sees it.

Acts are coarser than what the program does in one place. A datagram is decoded in one act, `Workshop.decode`, while
two workers of the program share the store operation by operation: one of them may store a template between two
lookups of the other. What two datagrams that are decoded at the same moment come to in that case is left open here.
The laws of queues, records and counts do not look at what comes of a datagram, only at where it goes.

Workers of an input are alike. How many are idle is kept, and what the others hold, but not which worker it is that
holds it.
-/

set_option autoImplicit false

namespace FlowCollector

/-- An input of a running collector, as `Input.start` makes it. -/
structure Input where
  protocol : Protocol
  intake : Intake
  /-- How many decode workers wait for a datagram. The others are among the `hands` or the senders. -/
  idle : Nat
  deriving DecidableEq, Repr

/-- What a worker has in its hands, before and after it has decoded. -/
inductive Load where
  /-- A datagram that is still to be decoded, and what it is taken for. -/
  | datagram (protocol : Protocol) (datagram : Datagram)
  /-- What is left of a datagram's records, of which the first is asked a place for next. -/
  | records (records : List FlowRecord)
  deriving DecidableEq, Repr

/-- A worker that is neither idle nor waits for a place, with its `Load`. -/
structure Hand where
  input : Nat
  load : Load
  deriving DecidableEq, Repr

/-- All that workers touch. A collector is this with its `Phase` and its setup. -/
structure Workshop where
  store : Store
  monitor : Monitor
  inputs : List Input
  /-- The workers that are neither idle nor wait for a place, in the order in which they became so. -/
  hands : List Hand
  outgoing : Outgoing
  deriving DecidableEq

/-- An act of one worker. `Workshop.perform?` does it, if it can be done. -/
inductive Act where
  /-- An idle worker of an input takes the oldest datagram from its `Intake`. -/
  | take (input : Nat)
  /-- The worker at a position among the hands decodes its datagram, asks for a place for its next record, or becomes
  idle. -/
  | work (position : Nat)
  /-- The sender at a position puts its next record into the outgoing queue, by `Outgoing.send?`. -/
  | send (position : Nat)
  deriving DecidableEq, Repr

/-- An input at which someone decodes, as its setup asks: an empty queue, and all of its workers idle. -/
def Input.start (setup : InputSetup) : Input where
  protocol := setup.protocol
  intake := .start setup.queueSize.toNat
  idle := setup.decodeWorkers.toNat

/-- What comes of a datagram that is taken for a protocol's, by `Protocol.decode`. Its sender is the exporter. -/
def Datagram.decode (datagram : Datagram) (protocol : Protocol) (store : Store) : Decoded × Store :=
  protocol.decode datagram.sender.ip datagram.timeReceived datagram.payload store

namespace Workshop

/-- How many workers an input has: those that are idle, those among the `hands`, and those that wait for a place. -/
def workersOf (workshop : Workshop) (input : Nat) : Nat :=
  ((workshop.inputs[input]?.map (·.idle)).getD 0)
    + workshop.hands.countP (·.input == input)
    + workshop.outgoing.senders.countP (·.input == input)

/-- Loses what waits at the inputs that have no worker left by `workersOf`: nobody will receive it. -/
def abandonInputs (workshop : Workshop) : Workshop :=
  { workshop with
    inputs := workshop.inputs.mapIdx fun index input =>
      if workshop.workersOf index = 0 then { input with intake := input.intake.drop } else input }

/-- An idle worker of an input takes the oldest datagram, and has it in its hands from then on. -/
def take? (workshop : Workshop) (index : Nat) : Option Workshop :=
  match workshop.inputs[index]? with
  | none => none
  | some input =>
    if input.idle = 0 then none
    else
      match input.intake.pop? with
      | none => none
      | some (datagram, intake) =>
        some { workshop with
          inputs := workshop.inputs.set index { input with intake, idle := input.idle - 1 }
          hands := workshop.hands ++ [⟨index, .datagram input.protocol datagram⟩] }

/-- The worker at a position decodes the datagram in its hands and counts what came of it. All of the datagram is
decoded over the store as it is now; the operations of no other worker come in between. -/
def decode (workshop : Workshop) (position index : Nat) (protocol : Protocol) (datagram : Datagram) :
    Workshop :=
  let (decoded, store) := datagram.decode protocol workshop.store
  { workshop with
    store
    monitor := workshop.monitor.addDecoded protocol datagram.sender.ip decoded
    hands := workshop.hands.set position ⟨index, .records decoded.records⟩ }

/-- The worker at a position is none of the `hands` any more, since it waits, is idle or has ended. -/
def letGo (workshop : Workshop) (position : Nat) : Workshop :=
  { workshop with hands := workshop.hands.eraseIdx position }

/-- A worker asks for a place by `Outgoing.ask`. With nobody to receive its record, it ends. -/
def ask (workshop : Workshop) (sender : Sender) : Workshop :=
  if workshop.outgoing.receiving then { workshop with outgoing := workshop.outgoing.ask sender }
  else workshop.abandonInputs

/-- A worker that has sent all it held says how many records wait (`Monitor.setOutgoing`), and is idle again. -/
def release (workshop : Workshop) (index : Nat) : Workshop :=
  { workshop with
    monitor := workshop.monitor.setOutgoing workshop.outgoing.length
    inputs := workshop.inputs.modify index fun input => { input with idle := input.idle + 1 } }

/-- The worker at a position goes on with what it has in its hands: `decode`, `ask` or `release`, as its `Load` is. -/
def work? (workshop : Workshop) (position : Nat) : Option Workshop :=
  match workshop.hands[position]? with
  | none => none
  | some ⟨index, .datagram protocol datagram⟩ =>
    some (workshop.decode position index protocol datagram)
  | some ⟨index, .records []⟩ => some ((workshop.letGo position).release index)
  | some ⟨index, .records (next :: rest)⟩ =>
    some ((workshop.letGo position).ask ⟨index, next, rest⟩)

/-- The sender at a position puts its next record into the outgoing queue, and has the others in its hands again. -/
def send? (workshop : Workshop) (position : Nat) : Option Workshop :=
  match workshop.outgoing.send? position with
  | none => none
  | some (sender, outgoing) =>
    some { workshop with
      outgoing
      hands := workshop.hands ++ [⟨sender.input, .records sender.rest⟩] }

/-- An act of a worker, if it can be done now. Which of those that can be done comes next is nobody's choice here. -/
def perform? (workshop : Workshop) : Act → Option Workshop
  | .take index => workshop.take? index
  | .work position => workshop.work? position
  | .send position => workshop.send? position

/-! ## What an act does -/

variable {workshop after : Workshop} {index position : Nat}

theorem take_eq_some (h : workshop.take? index = some after) :
    ∃ input datagram intake, workshop.inputs[index]? = some input ∧ 0 < input.idle
      ∧ input.intake.pop? = some (datagram, intake)
      ∧ after = { workshop with
          inputs := workshop.inputs.set index { input with intake, idle := input.idle - 1 }
          hands := workshop.hands ++ [⟨index, .datagram input.protocol datagram⟩] } := by
  unfold take? at h
  split at h
  · cases h
  case _ input found =>
    split at h
    · cases h
    case _ busy =>
      split at h
      · cases h
      case _ datagram intake popped =>
        exact ⟨input, datagram, intake, found, Nat.pos_of_ne_zero busy, popped,
          (Option.some.inj h).symm⟩

theorem work_eq_some (h : workshop.work? position = some after) :
    (∃ index protocol datagram,
      workshop.hands[position]? = some ⟨index, .datagram protocol datagram⟩
        ∧ after = workshop.decode position index protocol datagram)
      ∨ (∃ index, workshop.hands[position]? = some ⟨index, .records []⟩
        ∧ after = (workshop.letGo position).release index)
      ∨ (∃ index next rest, workshop.hands[position]? = some ⟨index, .records (next :: rest)⟩
        ∧ after = (workshop.letGo position).ask ⟨index, next, rest⟩) := by
  unfold work? at h
  split at h
  · cases h
  case _ index protocol datagram found =>
    exact .inl ⟨index, protocol, datagram, found, (Option.some.inj h).symm⟩
  case _ index found => exact .inr (.inl ⟨index, found, (Option.some.inj h).symm⟩)
  case _ index next rest found =>
    exact .inr (.inr ⟨index, next, rest, found, (Option.some.inj h).symm⟩)

theorem send_eq_some (h : workshop.send? position = some after) :
    ∃ sender, workshop.outgoing.senders[position]? = some sender
      ∧ position < workshop.outgoing.free
      ∧ after = { workshop with
          outgoing := { workshop.outgoing.put sender.next with
            senders := workshop.outgoing.senders.eraseIdx position }
          hands := workshop.hands ++ [⟨sender.input, .records sender.rest⟩] } := by
  unfold send? Outgoing.send? at h
  cases found : workshop.outgoing.senders[position]? with
  | none =>
    rw [found] at h
    cases h
  | some sender =>
    rw [found] at h
    by_cases given : position < workshop.outgoing.free
    · simp only [given, if_true] at h
      exact ⟨sender, rfl, given, (Option.some.inj h).symm⟩
    · simp only [given, if_false] at h
      cases h

end Workshop

end FlowCollector
