import FlowCollector.Address.Socket
import FlowCollector.Protocol
import FlowCollector.Settings.Check

/-!
# Setups

What a collector is made of: settings whose protocols and addresses have been read. A setup may still ask
for too much, so it is checked before a collector is made of it, and more strictly than the settings are:
every size has an upper bound as well, and no two inputs may listen at one address. Port 0 is exempt, since
the system gives each input that asks for it a port of its own.
-/

set_option autoImplicit false

namespace FlowCollector

/-- One input of a collector: `InputSettings` whose protocol and address have been read. -/
structure InputSetup where
  protocol : Protocol
  listen : SocketAddress
  /-- How many workers read from the socket. The check bounds it, and nothing else in a running collector looks at
  it. -/
  workers : UInt64
  /-- How many datagrams may wait to be decoded, the capacity of an `Intake`. -/
  queueSize : UInt64
  decodeWorkers : UInt64
  deriving DecidableEq, Repr

/-- A collector to be: what `Collector.build` makes one of, if `Setup.check` passes. -/
structure Setup where
  inputs : List InputSetup
  /-- How many records may wait to be consumed, of all inputs together: the capacity of `Outgoing`. -/
  outgoingQueueSize : UInt64
  /-- How long stopping waits for the workers, in seconds. -/
  drainTimeoutSecs : UInt64
  deriving DecidableEq, Repr

/-- What can be wrong with the size of an input, in the order in which `InputSetup.check` looks. -/
inductive InputSetup.Violation where
  | workers
  | decodeWorkers
  | queueSize
  deriving DecidableEq, Repr

/-- What can be wrong with a setup, or with the settings it is read from. `Setup.ofSettings` finds the first kinds and
`Setup.check` the others. -/
inductive Setup.Violation where
  /-- A name of a protocol that stands by itself and not for an input, as `Protocol.named` is given it. -/
  | protocol (name : String)
  | inputProtocol (index : Nat) (name : String)
  | inputListen (index : Nat) (text : String)
  | noInputs
  | outgoingQueueSize
  | drainTimeout
  | inputSize (index : Nat) (violation : InputSetup.Violation)
  | duplicateListen (index : Nat) (address : SocketAddress)
  deriving DecidableEq, Repr

namespace Setup

def maxQueueSize : UInt64 := 10000000

def maxWorkers : UInt64 := 1024

def maxDrainTimeoutSecs : UInt64 := 3600

/-- True of the sizes from one to a bound, such as `maxQueueSize`. -/
def inRange (size most : UInt64) : Bool := 1 ≤ size && size ≤ most

/-- The complaint about a size that is not `inRange`. -/
def rangeComplaint (most : UInt64) : String := s!"must be 1-{most}"

end Setup

namespace InputSetup.Violation

/-- The setting of the input that is wrong, by its key. -/
def setting : Violation → String
  | workers => "workers"
  | decodeWorkers => "decode_workers"
  | queueSize => "queue_size"

/-- What is wrong with it: always that it is not `inRange`. -/
def reason : Violation → String
  | workers => Setup.rangeComplaint Setup.maxWorkers
  | decodeWorkers => Setup.rangeComplaint Setup.maxWorkers
  | queueSize => Setup.rangeComplaint Setup.maxQueueSize

end InputSetup.Violation

namespace Setup.Violation

/-- The setting that is wrong, by its key. One of an input has the number of the input in it. -/
def setting : Violation → String
  | protocol _ => "decoder"
  | inputProtocol index _ => s!"inputs[{index}].decoder"
  | inputListen index _ => s!"inputs[{index}].listen"
  | noInputs => "inputs"
  | outgoingQueueSize => "outgoing_queue_size"
  | drainTimeout => "drain_timeout_secs"
  | inputSize index violation => s!"inputs[{index}].{violation.setting}"
  | duplicateListen index _ => s!"inputs[{index}].listen"

/-- What is wrong with it, in the words that an error has for it. -/
def reason : Violation → String
  | protocol name => s!"unknown decoder '{name}'"
  | inputProtocol _ name => s!"unknown decoder '{name}'"
  | inputListen _ text => s!"invalid socket address '{text}': {SocketAddress.syntaxComplaint}"
  | noInputs => "at least one input must be configured"
  | outgoingQueueSize => rangeComplaint maxQueueSize
  | drainTimeout => rangeComplaint maxDrainTimeoutSecs
  | inputSize _ violation => violation.reason
  | duplicateListen _ address => s!"duplicate listen address {address.text}"

end Setup.Violation

/-- The protocol of a name by `Protocol.ofName?`, or the complaint about it. -/
def Protocol.named (name : String) : Except Setup.Violation Protocol :=
  match ofName? name with
  | some protocol => .ok protocol
  | none => .error (.protocol name)

/-- Reads the settings of one input: its protocol, then its address. The sizes are taken over as they are. -/
def InputSetup.ofSettings (index : Nat) (input : InputSettings) :
    Except Setup.Violation InputSetup :=
  match Protocol.ofName? input.decoder with
  | none => .error (.inputProtocol index input.decoder)
  | some protocol =>
    match SocketAddress.ofText? input.listen with
    | none => .error (.inputListen index input.listen)
    | some listen => .ok {
        protocol, listen
        workers := input.workers
        queueSize := input.queueSize
        decodeWorkers := input.decodeWorkers }

/-- Checks the sizes of one input, each by `inRange`. -/
def InputSetup.check (input : InputSetup) : Except InputSetup.Violation Unit := do
  require (Setup.inRange input.workers Setup.maxWorkers) .workers
  require (Setup.inRange input.decodeWorkers Setup.maxWorkers) .decodeWorkers
  require (Setup.inRange input.queueSize Setup.maxQueueSize) .queueSize

namespace Setup

/-- Reads the settings of inputs by `InputSetup.ofSettings`, which are numbered from `index` on. -/
def inputsOfSettings (index : Nat) : List InputSettings → Except Violation (List InputSetup)
  | [] => .ok []
  | input :: others => do
    let first ← InputSetup.ofSettings index input
    return first :: (← inputsOfSettings (index + 1) others)

/-- Reads settings by `inputsOfSettings`. Sizes are taken over as they are, and `check` looks at them. -/
def ofSettings (settings : FlowSettings) : Except Violation Setup := do
  return {
    inputs := ← inputsOfSettings 0 settings.inputs
    outgoingQueueSize := settings.outgoingQueueSize
    drainTimeoutSecs := settings.drainTimeoutSecs }

/-- Checks the sizes of inputs by `InputSetup.check`, which are numbered from `index` on. -/
def checkSizes (index : Nat) : List InputSetup → Except Violation Unit
  | [] => .ok ()
  | input :: others => do
    input.check.mapError (.inputSize index)
    checkSizes (index + 1) others

/-- Checks that no input listens at the address of one before it. Those that ask for port 0 get ports of their own. -/
def checkAddresses (before : List InputSetup) : List InputSetup → Except Violation Unit
  | [] => .ok ()
  | input :: others => do
    require (input.listen.port == 0 || before.all fun other => other.listen != input.listen)
      (.duplicateListen before.length input.listen)
    checkAddresses (before ++ [input]) others

/-- Checks a setup: the first thing that is wrong. All sizes of all inputs (`checkSizes`) come before the first
address (`checkAddresses`). -/
def check (setup : Setup) : Except Violation Unit := do
  require (!setup.inputs.isEmpty) .noInputs
  require (inRange setup.outgoingQueueSize maxQueueSize) .outgoingQueueSize
  require (inRange setup.drainTimeoutSecs maxDrainTimeoutSecs) .drainTimeout
  checkSizes 0 setup.inputs
  checkAddresses [] setup.inputs

/-- How long stopping waits, in milliseconds, as a word of sixty-four bits. By `maxDrainTimeoutSecs` it does not wrap
around in a setup that passes. -/
def drainTimeoutMillis (setup : Setup) : UInt64 := setup.drainTimeoutSecs * 1000

end Setup

end FlowCollector
