import FlowCollector.Address.Text

/-!
# Flow records

What every datagram is turned into, whichever protocol it came in. A record starts as `FlowRecord.blank`, knowing its
exporter and the time only, and the decoders fill in what the datagram says; a member that nothing was said about
keeps its blank value, so 0.0.0.0 and port 0 mean "unknown" and not a host or a port.

The counters are the exporter's own. They are not multiplied by the sampling rate.
-/

set_option autoImplicit false

namespace FlowCollector

/-- Numbers that say what kind of packet a frame carries. -/
abbrev EtherType := UInt16

namespace EtherType

def ipv4 : EtherType := 0x0800

def ipv6 : EtherType := 0x86dd

/-- A tag of a virtual network in front of the packet. `PacketHeader` passes over it, and over `providerVlan`. -/
def vlan : EtherType := 0x8100

def providerVlan : EtherType := 0x88a8

end EtherType

/-- One flow, as an exporter reported it, or one packet that was sampled. `toJson` has the members in this order. -/
structure FlowRecord where
  timeReceived : UInt64
  /-- One packet in how many was looked at. 1 where nothing was said of sampling. -/
  samplingRate : UInt64
  exporterAddress : IpAddress
  exporterName : String
  exporterGroup : String
  sourceAddress : IpAddress
  destinationAddress : IpAddress
  sourceAs : UInt32
  destinationAs : UInt32
  sourceMask : UInt8
  destinationMask : UInt8
  nextHop : Option IpAddress
  sourcePort : UInt16
  destinationPort : UInt16
  protocol : UInt8
  tcpFlags : UInt8
  bytes : UInt64
  packets : UInt64
  inputInterface : UInt32
  outputInterface : UInt32
  etherType : EtherType
  forwardingStatus : UInt32
  deriving DecidableEq, Repr

namespace FlowRecord

/-- The record about which only its exporter and its time are known. The exporter is named by its address until
something else names it, and nothing here does. -/
def blank (exporter : IpAddress) (timeReceived : UInt64) : FlowRecord where
  timeReceived := timeReceived
  samplingRate := 1
  exporterAddress := exporter
  exporterName := exporter.text
  exporterGroup := ""
  sourceAddress := .unspecified
  destinationAddress := .unspecified
  sourceAs := 0
  destinationAs := 0
  sourceMask := 0
  destinationMask := 0
  nextHop := none
  sourcePort := 0
  destinationPort := 0
  protocol := 0
  tcpFlags := 0
  bytes := 0
  packets := 0
  inputInterface := 0
  outputInterface := 0
  etherType := 0
  forwardingStatus := 0

/-- The ether type that two addresses suggest: `EtherType.ipv6` if either is IPv6, none if both are unknown. -/
def suggestedEtherType (source destination : IpAddress) : EtherType :=
  if source.isV6 || destination.isV6 then .ipv6
  else if source.isUnspecified && destination.isUnspecified then 0
  else .ipv4

/-- Fills in `suggestedEtherType` of the two ends, unless the datagram gave an ether type. -/
def inferEtherType (record : FlowRecord) : FlowRecord :=
  if record.etherType = 0 then
    { record with
      etherType := suggestedEtherType record.sourceAddress record.destinationAddress }
  else record

/-- A record in one line for a reader. `jsonText` is the line for a program. -/
def summary (record : FlowRecord) : String :=
  let source := s!"{record.sourceAddress.text}:{record.sourcePort}"
  let destination := s!"{record.destinationAddress.text}:{record.destinationPort}"
  s!"[{record.exporterAddress.text}] {source} -> {destination} proto={record.protocol} "
    ++ s!"bytes={record.bytes} packets={record.packets} rate={record.samplingRate}"

end FlowRecord

end FlowCollector
