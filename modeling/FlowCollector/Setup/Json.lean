import FlowCollector.Json.Value
import FlowCollector.Setup

/-!
# Setups as JSON

Reading takes every value that writing gives, and nothing is left to defaults: each member must be there.
Besides an object, the values alone in order are a setup, and a protocol may stand as the key of an object
whose value is null.
-/

set_option autoImplicit false

namespace FlowCollector

/-- The names of an input's members, in the order that an array of values has them in. -/
def InputSetup.memberNames : List String :=
  ["decoder", "listen", "workers", "queue_size", "decode_workers"]

def InputSetup.toJson (input : InputSetup) : Json :=
  .record (memberNames.zip [.text input.protocol.name,
    .text input.listen.text,
    .natural input.workers.toNat,
    .natural input.queueSize.toNat,
    .natural input.decodeWorkers.toNat])

/-- A value as a protocol: its name, or an object with that name for a key and null behind it. -/
def Protocol.ofJson? : Json → Option Protocol
  | .string (some name) => Protocol.ofName? name
  | .object [(some name, .null)] => Protocol.ofName? name
  | _ => none

/-- A value as a word of sixty-four bits, by `Json.below?`. -/
def Json.word? (value : Json) : Option UInt64 := (value.below? UInt64.size).map .ofNat

/-- The input that a value describes, as an object with all of `memberNames` or as an array in their order. -/
def InputSetup.ofJson? (value : Json) : Option InputSetup := do
  let members ← value.members? memberNames
  let member? := Json.member? members
  return {
    protocol := ← Protocol.ofJson? (← member? "decoder")
    listen := ← SocketAddress.ofText? (← (← member? "listen").text?)
    workers := ← (← member? "workers").word?
    queueSize := ← (← member? "queue_size").word?
    decodeWorkers := ← (← member? "decode_workers").word? }

namespace Setup

/-- The names of the members, in the order that an array of values has them in. -/
def memberNames : List String := ["inputs", "outgoing_queue_size", "drain_timeout_secs"]

/-- A setup as an object, which `ofJson?` reads back. -/
def toJson (setup : Setup) : Json :=
  .record (memberNames.zip [.array (setup.inputs.map InputSetup.toJson),
    .natural setup.outgoingQueueSize.toNat,
    .natural setup.drainTimeoutSecs.toNat])

def items? : Json → Option (List Json)
  | .array items => some items
  | _ => none

/-- The setup that a value describes, as an object with all of `memberNames` or as an array in their order. -/
def ofJson? (value : Json) : Option Setup := do
  let members ← value.members? memberNames
  let member? := Json.member? members
  return {
    inputs := ← (← items? (← member? "inputs")).mapM InputSetup.ofJson?
    outgoingQueueSize := ← (← member? "outgoing_queue_size").word?
    drainTimeoutSecs := ← (← member? "drain_timeout_secs").word? }

end Setup

end FlowCollector
