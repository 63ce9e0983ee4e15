import FlowCollector.FlowRecord

/-!
# Packet headers

An exporter that samples packets sends the front of each one, cut off wherever its buffer ended. The
headers in it are read from the outside in, and each layer is read as a whole or not at all: a header
that is cut off or makes no sense leaves the record with what the layers around it said. That is not
an error, since a cut-off header is what was asked for.

Of a header only its own length is checked. Checksums, total lengths and fragment offsets are not looked
at, and neither are the extension headers of IPv6.
-/

set_option autoImplicit false

namespace FlowCollector.PacketHeader

def tcp : UInt8 := 6

def udp : UInt8 := 17

/-- What `ipv4?` and `ipv6?` read: the addresses, the protocol, and the bytes behind the header. -/
structure Internet where
  source : IpAddress
  destination : IpAddress
  protocol : UInt8
  payload : Bytes
  deriving DecidableEq, Repr

/-- The ports and flags of a transport header. UDP has no flags, and `FlowRecord.withTransport` keeps those the record
has. -/
structure Transport where
  sourcePort : UInt16
  destinationPort : UInt16
  flags : Option UInt8
  deriving DecidableEq, Repr

/-- The byte at an offset, zero behind the end. The readers check the length first, so the zero is never read. -/
def byteAt (bytes : Bytes) (offset : Nat) : UInt8 := bytes.getD offset 0

/-- The number of two bytes at an offset, the higher `byteAt` first. -/
def wordAt (bytes : Bytes) (offset : Nat) : UInt16 :=
  .ofNat (Bytes.toNat ((bytes.drop offset).take 2))

/-- The length of an IPv4 or TCP header in bytes, which is sent as a number of words in half a byte. -/
def wordsToBytes (words : Nat) : Nat := words * 4

/-- An IPv4 header with its options: version 4, at least five words long by `wordsToBytes`, and there as a whole. All
that is behind it is taken for its payload. -/
def ipv4? (packet : Bytes) : Option Internet := do
  if packet.length < 20 then none
  else
    let first := (byteAt packet 0).toNat
    let length := wordsToBytes (first % 16)
    if first / 16 = 4 ∧ 20 ≤ length ∧ length ≤ packet.length then
      let source ← IpAddress.ofV4Bytes? ((packet.drop 12).take 4)
      let destination ← IpAddress.ofV4Bytes? ((packet.drop 16).take 4)
      return ⟨source, destination, byteAt packet 9, packet.drop length⟩
    else none

/-- An IPv6 header: version 6, and there as a whole. Extension headers are not followed, so the protocol is that of
the next header whatever it is. -/
def ipv6? (packet : Bytes) : Option Internet := do
  if packet.length < 40 then none
  else if (byteAt packet 0).toNat / 16 = 6 then
    let source ← IpAddress.ofV6Bytes? ((packet.drop 8).take 16)
    let destination ← IpAddress.ofV6Bytes? ((packet.drop 24).take 16)
    return ⟨source, destination, byteAt packet 6, packet.drop 40⟩
  else none

/-- The Internet header that an ether type announces: `ipv4?` or `ipv6?`, and none for any other. -/
def internet? (etherType : EtherType) (packet : Bytes) : Option Internet :=
  if etherType = .ipv4 then ipv4? packet
  else if etherType = .ipv6 then ipv6? packet
  else none

/-- The bits of the TCP flags in the order FIN, SYN, RST, PSH, ACK, URG, ECE and CWR. -/
def flagMasks : List UInt8 := [0x01, 0x02, 0x04, 0x08, 0x10, 0x20, 0x40, 0x80]

/-- Which of the flags of `flagMasks` are set in a byte, in their order. -/
def flagsIn (byte : UInt8) : List Bool := flagMasks.map fun mask => byte &&& mask != 0

/-- The byte in which these flags are set, the first of them in the lowest bit: the way back from `flagsIn`. -/
def flagByte (flags : List Bool) : UInt8 :=
  flags.zipIdx.foldl (fun byte (isSet, bit) => if isSet then byte ||| (1 <<< UInt8.ofNat bit) else byte) 0

/-- A TCP header with its options: at least five words long by `wordsToBytes`, and there as a whole. -/
def tcp? (segment : Bytes) : Option Transport :=
  if segment.length < 20 then none
  else
    let length := wordsToBytes ((byteAt segment 12).toNat / 16)
    if 20 ≤ length ∧ length ≤ segment.length then
      some ⟨wordAt segment 0, wordAt segment 2, some (flagByte (flagsIn (byteAt segment 13)))⟩
    else none

/-- A UDP header. Its own length field is not looked at. -/
def udp? (segment : Bytes) : Option Transport :=
  if segment.length < 8 then none
  else some ⟨wordAt segment 0, wordAt segment 2, none⟩

/-- The transport header of a protocol: `tcp?` or `udp?`, and none for any other. -/
def transport? (protocol : UInt8) (segment : Bytes) : Option Transport :=
  if protocol = tcp then tcp? segment
  else if protocol = udp then udp? segment
  else none

/-- True of the ether types that stand for a tag, which `untagged?` looks behind, and not for a packet. -/
def isTag (etherType : EtherType) : Bool :=
  etherType == .vlan || etherType == .providerVlan

/-- The ether type and the packet behind any number of tags, each of which `isTag` announces. Nothing if a tag is cut
off. -/
def untagged? (etherType : EtherType) (bytes : Bytes) : Option (EtherType × Bytes) :=
  if isTag etherType then
    match bytes with
    | _ :: _ :: high :: low :: rest => untagged? (.ofNat (Bytes.toNat [high, low])) rest
    | _ => none
  else some (etherType, bytes)

/-- The ether type and the packet of an Ethernet frame, behind its two addresses and its tags (`untagged?`). -/
def ethernet? (frame : Bytes) : Option (EtherType × Bytes) :=
  if frame.length < 14 then none
  else untagged? (wordAt frame 12) (frame.drop 14)

end PacketHeader

namespace FlowRecord

open PacketHeader

/-- Fills in what a transport header says. Flags that the header has none of are left as they are. -/
def withTransport (record : FlowRecord) (header : Transport) : FlowRecord :=
  { record with
    sourcePort := header.sourcePort
    destinationPort := header.destinationPort
    tcpFlags := header.flags.getD record.tcpFlags }

/-- Fills in what the Internet header of a packet says (`internet?`), and the transport header behind it
(`transport?`). A header that is not read leaves the record as the headers before it left it. -/
def withPacket (record : FlowRecord) (etherType : EtherType) (packet : Bytes) : FlowRecord :=
  match internet? etherType packet with
  | none => record
  | some header =>
    let described := { record with
      sourceAddress := header.source
      destinationAddress := header.destination
      etherType := etherType
      protocol := header.protocol }
    match transport? header.protocol header.payload with
    | none => described
    | some transport => described.withTransport transport

/-- Fills in what an Ethernet frame says: the ether type behind the tags (`ethernet?`), and what `withPacket` finds in
the packet. -/
def withFrame (record : FlowRecord) (frame : Bytes) : FlowRecord :=
  match ethernet? frame with
  | none => record
  | some (etherType, packet) => { record with etherType }.withPacket etherType packet

end FlowRecord

end FlowCollector
