import FlowCollector.Decoded
import FlowCollector.Reader

/-!
# NetFlow version 5

A header of 24 bytes and records of 48, all of one layout. Nothing is announced and nothing remembered,
so this is a function of the datagram alone.

The count in the header is a promise and not a length: the records present are decoded, and one error
says that some are missing.
-/

set_option autoImplicit false

namespace FlowCollector.Netflow.Version5

def headerLength : Nat := 24

def recordLength : Nat := 48

/-- What `Header.read` keeps of the header: how many records follow, and which packets were looked at. -/
structure Header where
  count : UInt16
  /-- One packet in how many, zero where all were. `samplingRate` makes one of zero. -/
  samplingInterval : UInt16
  deriving DecidableEq, Repr

namespace Header

/-- Reads the fields of a header. The upper two bits of the last word tell the sampling mode and are no part of
`samplingInterval`. -/
def readFields : Reader Header := do
  let _version ← Reader.u16 .v5Header
  let count ← Reader.u16 .v5Header
  Reader.skip .v5Header 18
  let sampling ← Reader.u16 .v5Header
  return ⟨count, sampling &&& 0x3fff⟩

/-- Reads a header by `readFields` from all of its bytes at once, so that a short one misses all of `headerLength`. -/
def read : Reader Header := do
  let header ← Reader.take .v5Header headerLength
  match readFields.run header with
  | .ok (fields, _) => return fields
  | .error error => Reader.fail error

/-- The sampling rate that holds for every record of the datagram, never zero. -/
def samplingRate (header : Header) : UInt64 :=
  if header.samplingInterval = 0 then 1 else header.samplingInterval.toUInt64

end Header

/-- An address of four bytes, which `Ipv4.ofBytes?` always has. -/
def readAddress : Reader Ipv4 := do
  let bytes ← Reader.take .v5Record 4
  match Ipv4.ofBytes? bytes with
  | some address => return address
  | none => Reader.fail (.truncated .v5Record 4 bytes.length)

/-- Reads the fields of a record into `blank`, which knows the exporter, the time and the rate. A next hop of 0.0.0.0
is none, and the ether type is always that of IPv4. -/
def readFields (blank : FlowRecord) : Reader FlowRecord := do
  let source ← readAddress
  let destination ← readAddress
  let nextHop ← readAddress
  let inputInterface ← Reader.u16 .v5Record
  let outputInterface ← Reader.u16 .v5Record
  let packets ← Reader.u32 .v5Record
  let octets ← Reader.u32 .v5Record
  Reader.skip .v5Record 8
  let sourcePort ← Reader.u16 .v5Record
  let destinationPort ← Reader.u16 .v5Record
  Reader.skip .v5Record 1
  let tcpFlags ← Reader.u8 .v5Record
  let protocol ← Reader.u8 .v5Record
  Reader.skip .v5Record 1
  let sourceAs ← Reader.u16 .v5Record
  let destinationAs ← Reader.u16 .v5Record
  let sourceMask ← Reader.u8 .v5Record
  let destinationMask ← Reader.u8 .v5Record
  return { blank with
    sourceAddress := .v4 source
    destinationAddress := .v4 destination
    nextHop := if nextHop = .unspecified then none else some (.v4 nextHop)
    inputInterface := inputInterface.toUInt32
    outputInterface := outputInterface.toUInt32
    packets := packets.toUInt64
    bytes := octets.toUInt64
    sourcePort := sourcePort
    destinationPort := destinationPort
    tcpFlags := tcpFlags
    protocol := protocol
    sourceAs := sourceAs.toUInt32
    destinationAs := destinationAs.toUInt32
    sourceMask := sourceMask
    destinationMask := destinationMask
    etherType := .ipv4 }

/-- What the bytes of one record say by `readFields`: the record, or the error. -/
def decodeRecord (blank : FlowRecord) (bytes : Bytes) : Decoded :=
  match (readFields blank).run bytes with
  | .ok (record, _) => ⟨[record], [], 0⟩
  | .error error => .ofError error

/-- Decodes a datagram: the header, then as many records as it promises and the payload holds, each by `decodeRecord`.
Missing records are one error behind the others. No template is involved, so the store is no argument. -/
def decode (exporter : IpAddress) (timeReceived : UInt64) (payload : Bytes) : Decoded :=
  match Header.read.run payload with
  | .error error => .ofError error
  | .ok (header, rest) =>
    let blank := { FlowRecord.blank exporter timeReceived with samplingRate := header.samplingRate }
    let (records, ending) := Reader.upTo header.count.toNat (Reader.take .v5Record recordLength) rest
    let decoded := records.map (decodeRecord blank)
    decoded.foldr (· ++ ·) (.ofErrors ending.toList)

end FlowCollector.Netflow.Version5
