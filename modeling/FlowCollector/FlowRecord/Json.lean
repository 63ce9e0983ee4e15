import FlowCollector.FlowRecord
import FlowCollector.Json.Value

/-!
# Flow records as JSON text

A record is an object with its members in the order of the structure, and one line of text (`FlowRecord.jsonText`).
Reading, by `FlowRecord.ofJsonText?`, is strict where a value could be mistaken: a number must be a plain natural
number that fits its member, and each member must stand exactly once. It is lenient where nothing can be: other
members are passed over, a missing next hop is none, and the values alone, in order, are a record as well.
-/

set_option autoImplicit false

namespace FlowCollector.FlowRecord

/-- The names of the members, in the order of `memberValues`. -/
def memberNames : List String :=
  ["time_received", "sampling_rate", "exporter_address", "exporter_name", "exporter_group",
    "src_addr", "dst_addr", "src_as", "dst_as", "src_mask", "dst_mask", "next_hop", "src_port",
    "dst_port", "proto", "tcp_flags", "bytes", "packets", "in_if", "out_if", "etype",
    "forwarding_status"]

def addressJson (address : IpAddress) : Json := .text address.text

/-- The values of the members, in the order of `memberNames`. -/
def memberValues (record : FlowRecord) : List Json :=
  [.natural record.timeReceived.toNat,
    .natural record.samplingRate.toNat,
    addressJson record.exporterAddress,
    .text record.exporterName,
    .text record.exporterGroup,
    addressJson record.sourceAddress,
    addressJson record.destinationAddress,
    .natural record.sourceAs.toNat,
    .natural record.destinationAs.toNat,
    .natural record.sourceMask.toNat,
    .natural record.destinationMask.toNat,
    (record.nextHop.map addressJson).getD .null,
    .natural record.sourcePort.toNat,
    .natural record.destinationPort.toNat,
    .natural record.protocol.toNat,
    .natural record.tcpFlags.toNat,
    .natural record.bytes.toNat,
    .natural record.packets.toNat,
    .natural record.inputInterface.toNat,
    .natural record.outputInterface.toNat,
    .natural record.etherType.toNat,
    .natural record.forwardingStatus.toNat]

/-- A record as an object, each of `memberNames` with its value. -/
def toJson (record : FlowRecord) : Json := .record (memberNames.zip record.memberValues)

/-- A record as text, without a line feed in it or behind it. `Sink.line` adds that. -/
def jsonText (record : FlowRecord) : String := record.toJson.render

/-- A value as an address, which has to be one of `IpAddress.ofText?`. -/
def address? (value : Json) : Option IpAddress := do IpAddress.ofText? (← value.text?)

/-- A value as a next hop, where null is none. -/
def nextHop? : Json → Option (Option IpAddress)
  | .null => some none
  | value => (address? value).map some

/-- The record that an object, or an array of the values, describes. -/
def ofJson? (value : Json) : Option FlowRecord := do
  let members ← value.members? memberNames
  let member? := Json.member? members
  return {
    timeReceived := .ofNat (← (← member? "time_received").below? UInt64.size)
    samplingRate := .ofNat (← (← member? "sampling_rate").below? UInt64.size)
    exporterAddress := ← address? (← member? "exporter_address")
    exporterName := ← (← member? "exporter_name").text?
    exporterGroup := ← (← member? "exporter_group").text?
    sourceAddress := ← address? (← member? "src_addr")
    destinationAddress := ← address? (← member? "dst_addr")
    sourceAs := .ofNat (← (← member? "src_as").below? UInt32.size)
    destinationAs := .ofNat (← (← member? "dst_as").below? UInt32.size)
    sourceMask := .ofNat (← (← member? "src_mask").below? UInt8.size)
    destinationMask := .ofNat (← (← member? "dst_mask").below? UInt8.size)
    nextHop := ← nextHop? (← Json.optionalMember? members "next_hop")
    sourcePort := .ofNat (← (← member? "src_port").below? UInt16.size)
    destinationPort := .ofNat (← (← member? "dst_port").below? UInt16.size)
    protocol := .ofNat (← (← member? "proto").below? UInt8.size)
    tcpFlags := .ofNat (← (← member? "tcp_flags").below? UInt8.size)
    bytes := .ofNat (← (← member? "bytes").below? UInt64.size)
    packets := .ofNat (← (← member? "packets").below? UInt64.size)
    inputInterface := .ofNat (← (← member? "in_if").below? UInt32.size)
    outputInterface := .ofNat (← (← member? "out_if").below? UInt32.size)
    etherType := .ofNat (← (← member? "etype").below? UInt16.size)
    forwardingStatus := .ofNat (← (← member? "forwarding_status").below? UInt32.size) }

/-- The record that a text describes. Every text of `jsonText` describes the record it was written of. -/
def ofJsonText? (text : String) : Option FlowRecord := do ofJson? (← Json.ofText? text)

end FlowCollector.FlowRecord
