import FlowCollector.PacketHeader
import FlowCollector.Reader

/-!
# The records of a flow sample

A flow sample is a row of records about one sampled packet. Reading a record and using it are two steps:
`SampleRecord.read` needs its bytes alone and reads it as a whole, and `SampleRecord.apply` changes the
flow record. So a record that is too short changes nothing, not even what its first words say.
-/

set_option autoImplicit false

namespace FlowCollector.Sflow

/-- The format of a sample or record: an enterprise, and that enterprise's number for it. The formats that are read
have enterprise 0. -/
structure Format where
  enterprise : Nat
  number : Nat
  deriving DecidableEq, Repr

/-- Takes a format word apart. The lower twelve bits hold the number. -/
def Format.ofWord (word : UInt32) : Format := ⟨word.toNat / 4096, word.toNat % 4096⟩

/-- Reads an address behind the word that tells its kind. Kind 0 is an address that is not known, and a kind other
than 1 and 2 is an error. -/
def readAddress (place : Place) : Reader (Option IpAddress) := do
  let kind ← Reader.u32 place
  if kind = 0 then return none
  else if kind = 1 then return IpAddress.ofV4Bytes? (← Reader.take place 4)
  else if kind = 2 then return IpAddress.ofV6Bytes? (← Reader.take place 16)
  else Reader.fail (.malformedLength place kind.toNat 0)

/-- The fields of a packet that an exporter sends instead of its header, read by `readSampledIp`. -/
structure SampledIp where
  length : UInt32
  protocol : UInt32
  source : IpAddress
  destination : IpAddress
  sourcePort : UInt32
  destinationPort : UInt32
  tcpFlags : UInt32
  etherType : EtherType
  deriving DecidableEq, Repr

/-- What a record says about the sampled packet. `SampleRecord.read` makes one of bytes, and `SampleRecord.apply` uses
it. -/
inductive SampleRecord where
  /-- The front of the packet, and how long the packet was. The front may be cut off anywhere. -/
  | rawHeader (headerProtocol : UInt32) (frameLength : UInt32) (header : Bytes)
  | sampledIp (fields : SampledIp)
  | router (nextHop : Option IpAddress) (sourceMask destinationMask : UInt32)
  /-- The path holds the numbers of all segments, in order. -/
  | gateway (nextHop : Option IpAddress) (sourceAs : UInt32) (path : List UInt32)
  /-- A record that a flow record has no room for. -/
  | ignored
  deriving DecidableEq, Repr

namespace SampleRecord

/-- Reads the front of a packet, with the number that tells how it begins. -/
def readRawHeader : Reader SampleRecord := do
  let headerProtocol ← Reader.u32 .rawHeader
  let frameLength ← Reader.u32 .rawHeader
  let _stripped ← Reader.u32 .rawHeader
  let headerLength ← Reader.u32 .rawHeader
  let header ← Reader.take .rawHeader headerLength.toNat
  return .rawHeader headerProtocol frameLength header

/-- Reads an address of a known kind, in as many bytes as that takes. -/
def readFixedAddress (place : Place) (etherType : EtherType) : Reader IpAddress := do
  let width := if etherType = .ipv6 then 16 else 4
  let bytes ← Reader.take place width
  let address? := if etherType = .ipv6 then IpAddress.ofV6Bytes? bytes else IpAddress.ofV4Bytes? bytes
  match address? with
  | some address => return address
  | none => Reader.fail (.truncated place width bytes.length)

/-- Reads the fields of a packet of either kind of address. The last word is the type of service or the priority,
which no flow record has. -/
def readSampledIp (place : Place) (etherType : EtherType) : Reader SampleRecord := do
  let length ← Reader.u32 place
  let protocol ← Reader.u32 place
  let source ← readFixedAddress place etherType
  let destination ← readFixedAddress place etherType
  let sourcePort ← Reader.u32 place
  let destinationPort ← Reader.u32 place
  let tcpFlags ← Reader.u32 place
  let _service ← Reader.u32 place
  return .sampledIp
    { length, protocol, source, destination, sourcePort, destinationPort, tcpFlags, etherType }

/-- Reads where a router sends the packet, and the masks of the two addresses. -/
def readRouter : Reader SampleRecord := do
  let nextHop ← readAddress .extendedRouter
  let sourceMask ← Reader.u32 .extendedRouter
  let destinationMask ← Reader.u32 .extendedRouter
  return .router nextHop sourceMask destinationMask

/-- Reads one segment of a path: its kind, how many numbers it has, and the numbers. The kind makes no difference. -/
def readPathSegment : Reader (List UInt32) := do
  let _kind ← Reader.u32 .asPath
  let length ← Reader.u32 .asPath
  Reader.times length.toNat (Reader.u32 .asPath)

/-- Reads the path of autonomous systems that the packet takes, segment by segment (`readPathSegment`). -/
def readGateway : Reader SampleRecord := do
  let nextHop ← readAddress .extendedGateway
  let _routerAs ← Reader.u32 .extendedGateway
  let sourceAs ← Reader.u32 .extendedGateway
  let _sourcePeerAs ← Reader.u32 .extendedGateway
  let segments ← Reader.u32 .extendedGateway
  let path ← Reader.times segments.toNat readPathSegment
  return .gateway nextHop sourceAs path.flatten

/-- True of the formats that describe the sampled packet itself. `FlowSample.decode` asks for it before it reads the
record. -/
def describesPacket (format : Format) : Bool :=
  format.enterprise == 0 && (format.number == 1 || format.number == 3 || format.number == 4)

/-- Reads the body of a record by its format. Formats that are not known are `ignored`. -/
def read (format : Format) : Reader SampleRecord :=
  if format.enterprise ≠ 0 then return .ignored
  else
    match format.number with
    | 1 => readRawHeader
    | 3 => readSampledIp .sampledIpv4 .ipv4
    | 4 => readSampledIp .sampledIpv6 .ipv6
    | 1002 => readRouter
    | 1003 => readGateway
    | _ => return .ignored

/-- Fills in what a record says. The front of a packet goes through `withFrame` or `withPacket`. The next hop of a
router comes before that of a gateway. -/
def apply (record : FlowRecord) : SampleRecord → FlowRecord
  | .rawHeader headerProtocol frameLength header =>
    let sized := { record with bytes := frameLength.toUInt64 }
    if headerProtocol = 1 then sized.withFrame header
    else if headerProtocol = 11 then sized.withPacket .ipv4 header
    else if headerProtocol = 12 then sized.withPacket .ipv6 header
    else sized
  | .sampledIp fields =>
    { record with
      bytes := fields.length.toUInt64
      protocol := fields.protocol.toUInt8
      sourceAddress := fields.source
      destinationAddress := fields.destination
      sourcePort := fields.sourcePort.toUInt16
      destinationPort := fields.destinationPort.toUInt16
      tcpFlags := fields.tcpFlags.toUInt8
      etherType := fields.etherType }
  | .router nextHop sourceMask destinationMask =>
    { record with
      nextHop := nextHop <|> record.nextHop
      sourceMask := sourceMask.toUInt8
      destinationMask := destinationMask.toUInt8 }
  | .gateway nextHop sourceAs path =>
    { record with
      nextHop := record.nextHop <|> nextHop
      sourceAs := sourceAs
      destinationAs := path.getLastD 0 }
  | .ignored => record

end SampleRecord

end FlowCollector.Sflow
