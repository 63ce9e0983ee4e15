import FlowCollector.Proofs.Address.Bytes
import FlowCollector.Proofs.PacketHeader

/-!
# Packet headers as they are written

The headers of a packet are written here with all of their fields, and reading gives back what of them a flow record
has room for. An Internet header does not say what stands behind it other than by the protocol number, and that is taken
from what does stand there: so a packet whose number and payload do not fit is not a value of `WrittenPacket`.

Two of the headers are longer than their fixed part by a number of words, which they have in half a byte of their own.
-/

set_option autoImplicit false

namespace FlowCollector.PacketHeader

/-- What stands behind the fixed five words of a header: up to ten words of anything, that nobody reads. -/
structure Options where
  words : Fin 11
  bytes : Bytes
  width : bytes.length = words * 4
  deriving DecidableEq, Repr

/-- The whole length of the header in words, as `wordsToBytes` is given it. -/
def Options.headerWords (options : Options) : Nat := 5 + options.words

theorem Options.length_eq (options : Options) : 20 + options.bytes.length = wordsToBytes options.headerWords := by
  rw [options.width, wordsToBytes, headerWords]
  omega

/-! ## Internet headers -/

structure Ipv4Header where
  service : UInt8
  totalLength : UInt16
  identification : UInt16
  /-- Three flags, and the place of a fragment in its packet. -/
  fragment : UInt16
  timeToLive : UInt8
  checksum : UInt16
  source : Ipv4
  destination : Ipv4
  options : Options
  deriving DecidableEq, Repr

structure Ipv6Header where
  trafficClass : UInt8
  flowLabel : Fin 0x100000
  payloadLength : UInt16
  hopLimit : UInt8
  source : Ipv6
  destination : Ipv6
  deriving DecidableEq, Repr

/-- An IPv4 header as it is written. The version is in the upper half of the first byte, and the number of words
(`Options.headerWords`) in the lower. -/
def Ipv4Header.encode (header : Ipv4Header) (protocol : UInt8) : Bytes :=
  [.ofNat (4 * 16 + header.options.headerWords), header.service]
    ++ (Bytes.ofNat 2 header.totalLength.toNat ++ (Bytes.ofNat 2 header.identification.toNat
    ++ (Bytes.ofNat 2 header.fragment.toNat ++ ([header.timeToLive, protocol] ++ (Bytes.ofNat 2 header.checksum.toNat
    ++ (header.source.toBytes ++ (header.destination.toBytes ++ header.options.bytes)))))))

/-- An IPv6 header as it is written. The first word has the version in four bits, the traffic class in eight and the
flow label in twenty. -/
def Ipv6Header.encode (header : Ipv6Header) (nextHeader : UInt8) : Bytes :=
  Bytes.ofNat 4 (6 * 0x10000000 + header.trafficClass.toNat * 0x100000 + header.flowLabel)
    ++ (Bytes.ofNat 2 header.payloadLength.toNat ++ ([nextHeader, header.hopLimit]
    ++ (header.source.toBytes ++ header.destination.toBytes)))

theorem Ipv4Header.length_encode (header : Ipv4Header) (protocol : UInt8) :
    (header.encode protocol).length = wordsToBytes header.options.headerWords := by
  rw [← header.options.length_eq]
  simp [encode, Ipv4.toBytes]
  omega

theorem Ipv6Header.length_encode (header : Ipv6Header) (nextHeader : UInt8) :
    (header.encode nextHeader).length = 40 := by
  simp [encode, Ipv6.length_toBytes]

theorem ipv4?_encode (header : Ipv4Header) (protocol : UInt8) (payload : Bytes) :
    ipv4? (header.encode protocol ++ payload)
      = some ⟨.v4 header.source, .v4 header.destination, protocol, payload⟩ := by
  have width := header.length_encode protocol
  have long := header.options.length_eq
  have few : header.options.headerWords < 16 := by
    have := header.options.words.isLt
    unfold Options.headerWords
    omega
  have first : (byteAt (header.encode protocol ++ payload) 0).toNat = 4 * 16 + header.options.headerWords :=
    UInt8.toNat_ofNat_of_lt' (show _ < 256 by omega)
  have version : (4 * 16 + header.options.headerWords) / 16 = 4 := by omega
  have words : (4 * 16 + header.options.headerWords) % 16 = header.options.headerWords := by omega
  rw [ipv4?_eq_some_iff, first, version, words, List.length_append, width]
  refine ⟨by omega, rfl, by omega, by omega, ?_, ?_, rfl, ?_⟩
  · exact IpAddress.ofV4Bytes?_toBytes header.source
  · exact IpAddress.ofV4Bytes?_toBytes header.destination
  · exact (List.drop_left' width).symm

theorem ipv6?_encode (header : Ipv6Header) (nextHeader : UInt8) (payload : Bytes) :
    ipv6? (header.encode nextHeader ++ payload)
      = some ⟨.v6 header.source, .v6 header.destination, nextHeader, payload⟩ := by
  have width := header.length_encode nextHeader
  have first : (byteAt (header.encode nextHeader ++ payload) 0).toNat / 16 = 6 := by
    have traffic := header.trafficClass.toNat_lt
    have label := header.flowLabel.isLt
    show (UInt8.ofNat ((6 * 0x10000000 + header.trafficClass.toNat * 0x100000 + header.flowLabel)
      / 256 / 256 / 256 % 256)).toNat / 16 = 6
    rw [UInt8.toNat_ofNat']
    omega
  have addresses : (header.encode nextHeader ++ payload).drop 8
      = header.source.toBytes ++ (header.destination.toBytes ++ payload) := by
    rw [← List.append_assoc]
    rfl
  rw [ipv6?_eq_some_iff, List.length_append, width]
  refine ⟨by omega, first, ?_, ?_, rfl, ?_⟩
  · rw [addresses, List.take_left' header.source.length_toBytes]
    exact IpAddress.ofV6Bytes?_toBytes header.source
  · rw [show 24 = 8 + 16 from rfl, ← List.drop_drop, addresses, List.drop_left' header.source.length_toBytes,
      List.take_left' header.destination.length_toBytes]
    exact IpAddress.ofV6Bytes?_toBytes header.destination
  · exact (List.drop_left' width).symm

/-! ## Transport headers -/

structure TcpHeader where
  sourcePort : UInt16
  destinationPort : UInt16
  sequence : UInt32
  acknowledgement : UInt32
  reserved : Fin 16
  flags : UInt8
  window : UInt16
  checksum : UInt16
  urgent : UInt16
  options : Options
  deriving DecidableEq, Repr

structure UdpHeader where
  sourcePort : UInt16
  destinationPort : UInt16
  length : UInt16
  checksum : UInt16
  deriving DecidableEq, Repr

/-- A TCP header as it is written. The number of words is in the upper half of a byte, and the flags are in the next
one. -/
def TcpHeader.encode (header : TcpHeader) : Bytes :=
  Bytes.ofNat 2 header.sourcePort.toNat ++ (Bytes.ofNat 2 header.destinationPort.toNat
    ++ (Bytes.ofNat 4 header.sequence.toNat ++ (Bytes.ofNat 4 header.acknowledgement.toNat
    ++ ([.ofNat (header.options.headerWords * 16 + header.reserved), header.flags]
    ++ (Bytes.ofNat 2 header.window.toNat ++ (Bytes.ofNat 2 header.checksum.toNat
    ++ (Bytes.ofNat 2 header.urgent.toNat ++ header.options.bytes)))))))

def UdpHeader.encode (header : UdpHeader) : Bytes :=
  Bytes.ofNat 2 header.sourcePort.toNat ++ (Bytes.ofNat 2 header.destinationPort.toNat
    ++ (Bytes.ofNat 2 header.length.toNat ++ Bytes.ofNat 2 header.checksum.toNat))

theorem TcpHeader.length_encode (header : TcpHeader) :
    header.encode.length = wordsToBytes header.options.headerWords := by
  rw [← header.options.length_eq]
  simp [encode]
  omega

theorem tcp?_encode (header : TcpHeader) (data : Bytes) :
    tcp? (header.encode ++ data) = some ⟨header.sourcePort, header.destinationPort, some header.flags⟩ := by
  have long := header.options.length_eq
  have offset : (byteAt (header.encode ++ data) 12).toNat / 16 = header.options.headerWords := by
    have few := header.options.words.isLt
    have half := header.reserved.isLt
    show (UInt8.ofNat (header.options.headerWords * 16 + header.reserved)).toNat / 16 = _
    rw [UInt8.toNat_ofNat', Options.headerWords]
    omega
  rw [tcp?_eq_some_iff, offset, List.length_append, header.length_encode]
  refine ⟨by omega, by omega, by omega, ?_⟩
  have source : wordAt (header.encode ++ data) 0 = header.sourcePort := Bytes.ofNat_toNat_ofNat header.sourcePort
  have destination : wordAt (header.encode ++ data) 2 = header.destinationPort :=
    Bytes.ofNat_toNat_ofNat header.destinationPort
  rw [source, destination]
  rfl

theorem udp?_encode (header : UdpHeader) (data : Bytes) :
    udp? (header.encode ++ data) = some ⟨header.sourcePort, header.destinationPort, none⟩ := by
  have source : wordAt (header.encode ++ data) 0 = header.sourcePort := Bytes.ofNat_toNat_ofNat header.sourcePort
  have destination : wordAt (header.encode ++ data) 2 = header.destinationPort :=
    Bytes.ofNat_toNat_ofNat header.destinationPort
  rw [udp?_eq_some_iff, source, destination]
  refine ⟨?_, rfl⟩
  simp [UdpHeader.encode]
  omega

/-! ## Packets -/

inductive InternetHeader where
  | v4 (header : Ipv4Header)
  | v6 (header : Ipv6Header)
  deriving DecidableEq, Repr

/-- What stands behind an Internet header, with the protocol number that says so. A protocol other than TCP and UDP
can have anything there. -/
inductive Payload where
  | tcp (header : TcpHeader) (data : Bytes)
  | udp (header : UdpHeader) (data : Bytes)
  | other (protocol : UInt8) (notTcp : protocol ≠ PacketHeader.tcp) (notUdp : protocol ≠ PacketHeader.udp)
    (data : Bytes)
  deriving DecidableEq, Repr

structure WrittenPacket where
  header : InternetHeader
  payload : Payload
  deriving DecidableEq, Repr

namespace InternetHeader

def encode (protocol : UInt8) : InternetHeader → Bytes
  | v4 header => header.encode protocol
  | v6 header => header.encode protocol

def etherType : InternetHeader → EtherType
  | v4 _ => .ipv4
  | v6 _ => .ipv6

def source : InternetHeader → IpAddress
  | v4 header => .v4 header.source
  | v6 header => .v6 header.source

def destination : InternetHeader → IpAddress
  | v4 header => .v4 header.destination
  | v6 header => .v6 header.destination

end InternetHeader

namespace Payload

def protocol : Payload → UInt8
  | tcp _ _ => PacketHeader.tcp
  | udp _ _ => PacketHeader.udp
  | other protocol _ _ _ => protocol

def encode : Payload → Bytes
  | tcp header data => header.encode ++ data
  | udp header data => header.encode ++ data
  | other _ _ _ data => data

def sourcePort? : Payload → Option UInt16
  | tcp header _ => some header.sourcePort
  | udp header _ => some header.sourcePort
  | other _ _ _ _ => none

def destinationPort? : Payload → Option UInt16
  | tcp header _ => some header.destinationPort
  | udp header _ => some header.destinationPort
  | other _ _ _ _ => none

def tcpFlags? : Payload → Option UInt8
  | tcp header _ => some header.flags
  | udp _ _ => none
  | other _ _ _ _ => none

end Payload

def WrittenPacket.encode (packet : WrittenPacket) : Bytes :=
  packet.header.encode packet.payload.protocol ++ packet.payload.encode

theorem WrittenPacket.internet?_encode (packet : WrittenPacket) :
    internet? packet.header.etherType packet.encode
      = some ⟨packet.header.source, packet.header.destination, packet.payload.protocol, packet.payload.encode⟩ := by
  unfold encode internet?
  cases packet.header with
  | v4 header =>
    rw [if_pos (show InternetHeader.etherType (.v4 header) = .ipv4 from rfl)]
    exact ipv4?_encode header _ _
  | v6 header =>
    have other : InternetHeader.etherType (.v6 header) ≠ .ipv4 := show EtherType.ipv6 ≠ .ipv4 by decide
    rw [if_neg other, if_pos (show InternetHeader.etherType (.v6 header) = .ipv6 from rfl)]
    exact ipv6?_encode header _ _

/-- What a record says of a packet, on top of what it said before: what `withPacket` should come to. -/
def WrittenPacket.describe (packet : WrittenPacket) (record : FlowRecord) : FlowRecord :=
  { record with
    etherType := packet.header.etherType
    sourceAddress := packet.header.source
    destinationAddress := packet.header.destination
    protocol := packet.payload.protocol
    sourcePort := packet.payload.sourcePort?.getD record.sourcePort
    destinationPort := packet.payload.destinationPort?.getD record.destinationPort
    tcpFlags := packet.payload.tcpFlags?.getD record.tcpFlags }

theorem withPacket_encode (packet : WrittenPacket) (record : FlowRecord) :
    record.withPacket packet.header.etherType packet.encode = packet.describe record := by
  unfold FlowRecord.withPacket
  rw [packet.internet?_encode]
  unfold WrittenPacket.describe
  dsimp only
  cases packet.payload with
  | tcp header data =>
    have read : transport? tcp (header.encode ++ data) = _ := tcp?_encode header data
    simp only [Payload.protocol, Payload.encode, read]
    rfl
  | udp header data =>
    have read : transport? udp (header.encode ++ data) = _ := udp?_encode header data
    simp only [Payload.protocol, Payload.encode, read]
    rfl
  | other protocol notTcp notUdp data =>
    have nothing : transport? protocol data = none := by rw [transport?, if_neg notTcp, if_neg notUdp]
    simp only [Payload.protocol, Payload.encode, nothing]
    rfl

/-! ## Frames -/

/-- The addresses in front of a frame, six bytes for each end. -/
structure FrameAddresses where
  bytes : Bytes
  width : bytes.length = 12
  deriving DecidableEq, Repr

def frameOf (addresses : FrameAddresses) (packet : WrittenPacket) : Bytes :=
  addresses.bytes ++ (Bytes.ofNat 2 packet.header.etherType.toNat ++ packet.encode)

theorem ethernet?_frameOf (addresses : FrameAddresses) (packet : WrittenPacket) :
    ethernet? (frameOf addresses packet) = some (packet.header.etherType, packet.encode) := by
  have behind : (frameOf addresses packet).drop 12 = Bytes.ofNat 2 packet.header.etherType.toNat ++ packet.encode :=
    List.drop_left' addresses.width
  have long : 14 ≤ (frameOf addresses packet).length := by
    simp only [frameOf, List.length_append, addresses.width, Bytes.length_ofNat]
    omega
  have typed : wordAt (Bytes.ofNat 2 packet.header.etherType.toNat ++ packet.encode) 0 = packet.header.etherType :=
    Bytes.ofNat_toNat_ofNat packet.header.etherType
  have plain : ¬ isTag packet.header.etherType := by cases packet.header <;> exact Bool.false_ne_true
  rw [ethernet?_of_long long, behind, typed, List.drop_left' (Bytes.length_ofNat ..)]
  unfold untagged?
  exact if_neg plain

theorem withFrame_frameOf (addresses : FrameAddresses) (packet : WrittenPacket) (record : FlowRecord) :
    record.withFrame (frameOf addresses packet) = packet.describe record := by
  unfold FlowRecord.withFrame
  rw [ethernet?_frameOf]
  exact withPacket_encode packet { record with etherType := packet.header.etherType }

end FlowCollector.PacketHeader
