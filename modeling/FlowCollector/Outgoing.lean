import FlowCollector.FlowRecord

/-!
# The outgoing queue

Records that wait for the consumer, and the senders that wait for a place. Places are given out in the
order in which senders ask, so a free place belongs to the sender that has waited longest even before it
has put its record there. Nobody who asks later gets it, not even someone who would not wait.

A sender holds what is left of one datagram's records. It puts one record at a time, and has to ask anew for
the next, so records of one datagram stay in order while those of different datagrams may mix.
-/

set_option autoImplicit false

namespace FlowCollector

/-- A decode worker that has asked for a place by `Outgoing.ask`, and the records it still has to send. -/
structure Sender where
  input : Nat
  /-- The record to be sent next. The others are asked for one at a time, each behind whoever has asked meanwhile. -/
  next : FlowRecord
  rest : List FlowRecord
  deriving DecidableEq, Repr

/-- The records a sender holds, in the order in which it sends them. -/
def Sender.records (sender : Sender) : List FlowRecord := sender.next :: sender.rest

/-- The queue of records between the workers and the consumer. The first `Outgoing.free` of the `senders` have a place
that nobody else gets; the others wait. -/
structure Outgoing where
  capacity : Nat
  /-- The records that wait for the consumer, the oldest first. -/
  waiting : List FlowRecord
  /-- Who has asked for a place and has not used it, in the order of asking. -/
  senders : List Sender
  /-- False once the collector has been stopped, by `close`. -/
  sending : Bool
  /-- False once the consumer has gone, by `dropReceiver`. -/
  receiving : Bool
  deriving DecidableEq, Repr

namespace Outgoing

/-- A queue in which nothing waits and both of whose ends are there. -/
def start (capacity : Nat) : Outgoing := ⟨capacity, [], [], true, true⟩

/-- True while both ends are there. A record can be sent or injected only then. -/
def isOpen (outgoing : Outgoing) : Bool := outgoing.sending && outgoing.receiving

/-- Places without a record in them, whether or not a sender was given them. `send?` is open to the first so many
senders. -/
def free (outgoing : Outgoing) : Nat := outgoing.capacity - outgoing.waiting.length

/-- How many places are taken: those of waiting records, and those given to senders. This is what `Health` is told; a
queue that is not open has none. -/
def length (outgoing : Outgoing) : Nat :=
  if outgoing.isOpen then min outgoing.capacity (outgoing.waiting.length + outgoing.senders.length)
  else 0

/-- True when a place is free that no sender has been given, so that a record can be `put` there at once. -/
def hasRoom (outgoing : Outgoing) : Bool :=
  outgoing.waiting.length + outgoing.senders.length < outgoing.capacity

/-- A sender asks for a place, behind all that have asked before. -/
def ask (outgoing : Outgoing) (sender : Sender) : Outgoing :=
  { outgoing with senders := outgoing.senders ++ [sender] }

/-- A record is put into a place behind the others. Whether there is one is up to the caller, `send?` or
`Collector.inject`. -/
def put (outgoing : Outgoing) (record : FlowRecord) : Outgoing :=
  { outgoing with waiting := outgoing.waiting ++ [record] }

/-- The sender at a position puts its next record into the place it was given, and no longer waits. Gives the sender
as it was, since the rest of its records have to be asked for anew. No answer if that sender has not got a place. -/
def send? (outgoing : Outgoing) (position : Nat) : Option (Sender × Outgoing) :=
  match outgoing.senders[position]? with
  | none => none
  | some sender =>
    if position < outgoing.free then
      some (sender,
        { outgoing.put sender.next with senders := outgoing.senders.eraseIdx position })
    else none

/-- The consumer takes the oldest record. It takes what waits even of a queue that was closed. -/
def pop? (outgoing : Outgoing) : Option (FlowRecord × Outgoing) :=
  match outgoing.waiting with
  | [] => none
  | record :: waiting => some (record, { outgoing with waiting })

/-- The consumer goes: the records that wait are lost, and so are those the senders hold. -/
def dropReceiver (outgoing : Outgoing) : Outgoing :=
  { outgoing with waiting := [], senders := [], receiving := false }

/-- Nobody sends any more. What senders still hold is lost, and what waits can be had by `pop?`. -/
def close (outgoing : Outgoing) : Outgoing := { outgoing with senders := [], sending := false }

end Outgoing

/-- The answer to a consumer that asks for a record without waiting. -/
inductive Received where
  | record (record : FlowRecord)
  | empty
  | closed
  | noReceiver
  deriving DecidableEq, Repr

/-- The answer to whoever puts a record into the queue beside the workers, `Collector.inject`. -/
inductive Injection where
  | accepted
  /-- No place is free (`Outgoing.hasRoom`), and the record is given up. -/
  | wouldWait
  | refused
  deriving DecidableEq, Repr

end FlowCollector
