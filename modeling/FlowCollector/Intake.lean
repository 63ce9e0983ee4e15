import FlowCollector.Address.Socket
import FlowCollector.Stats

/-!
# Intake queues

Datagrams of one input, waiting to be decoded. Offering one never waits: either it is taken or it is
dropped and counted, so a slow decoder can not hold up the socket. What waits is handed out unchanged and
in the order in which it came.

The receiving end can be closed, which refuses new datagrams and leaves the waiting ones to be received, or
dropped, which loses them.
-/

set_option autoImplicit false

namespace FlowCollector

/-- What came in on a socket: the payload as a `Bytes`, and what the listener knows of it. -/
structure Datagram where
  /-- Where it came from. The address is the exporter of the records; the port is not looked at when they are
  decoded. -/
  sender : SocketAddress
  /-- When it came, in seconds since 1970. It goes into every record that is decoded from the payload. -/
  timeReceived : UInt64
  payload : Bytes
  deriving DecidableEq, Repr

/-- What has become of the receiving end of a queue. `Intake.close` leaves what waits to be received, `Intake.drop`
loses it; an end that is gone stays gone. -/
inductive Reception where
  | opened
  | closed
  | dropped
  deriving DecidableEq, Repr

/-- A queue of datagrams of limited length. `Intake.offer` is the listener's side and `Intake.receive` the decode
worker's. -/
structure Intake where
  capacity : Nat
  /-- The datagrams that wait, the oldest first. There are never more than `capacity`. -/
  waiting : List Datagram
  reception : Reception
  deriving DecidableEq, Repr

namespace Intake

def start (capacity : Nat) : Intake := ⟨capacity, [], .opened⟩

def length (intake : Intake) : Nat := intake.waiting.length

/-- True when `push` would take a datagram: the receiving end is there and fewer than `capacity` datagrams wait. -/
def hasRoom (intake : Intake) : Bool :=
  intake.reception == .opened && intake.length < intake.capacity

/-- Takes a datagram at the end of the row if the queue `hasRoom`, and is the same queue otherwise. -/
def push (intake : Intake) (datagram : Datagram) : Intake :=
  if intake.hasRoom then { intake with waiting := intake.waiting ++ [datagram] } else intake

/-- Offers a datagram to the queue of an input: whether `push` took it, the queue, and the counts. A datagram counts
as received in either case, and as dropped when it was not taken, whether for want of room or because the receiving
end is gone. -/
def offer (intake : Intake) (input : Nat) (datagram : Datagram) (monitor : Monitor) :
    Bool × Intake × Monitor :=
  let monitor := monitor.add (.received input) 1
  if intake.hasRoom then (true, intake.push datagram, monitor)
  else (false, intake, monitor.add (.dropped input) 1)

/-- Hands out the oldest datagram. Unlike `receive` it does not ask whether the receiving end is there. -/
def pop? (intake : Intake) : Option (Datagram × Intake) :=
  match intake.waiting with
  | [] => none
  | datagram :: waiting => some (datagram, { intake with waiting })

/-- Refuses datagrams from now on. What waits can still be had by `receive`, and an end that was dropped stays so. -/
def close (intake : Intake) : Intake :=
  match intake.reception with
  | .opened => { intake with reception := .closed }
  | _ => intake

def drop (intake : Intake) : Intake := { intake with waiting := [], reception := .dropped }

/-- The answer of `Intake.receive`. -/
inductive Received where
  | datagram (datagram : Datagram)
  | none
  | noReceiver
  deriving DecidableEq, Repr

/-- Receives the oldest datagram, if the receiving end is there and one waits. A queue that was closed hands out what
waits, as an open one does. -/
def receive (intake : Intake) : Received × Intake :=
  if intake.reception = .dropped then (.noReceiver, intake)
  else
    match intake.pop? with
    | some (datagram, rest) => (.datagram datagram, rest)
    | .none => (.none, intake)

end Intake

end FlowCollector
