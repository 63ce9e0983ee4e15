import FlowCollector.Proofs.PacketHeader.Written
import FlowCollector.Proofs.Sflow.Records

/-!
# The front of the packet

One kind of record has the front of the sampled packet as it was on the wire. What it says of the packet hangs on the
headers in it alone: tags of virtual networks leave no trace, a front that was cut off says less but never something
else, and of headers that are there as a whole every field that a flow record has room for is filled in.

Only the length of the packet is not told by the front. It has a word of its own, since the front is short of it.
-/

set_option autoImplicit false

namespace FlowCollector.Sflow

open PacketHeader
open WrittenBlock (step failure?)

/-- A record that has the front of a packet: how its headers start, how long the packet was, how many bytes of it were
left out, and the front itself with its length. -/
def rawHeader (headerProtocol frameLength stripped : UInt32) (header rest : Bytes) : WrittenBlock :=
  ⟨1, spell [headerProtocol, frameLength, stripped] ++ (Bytes.ofNat 4 header.length ++ (header ++ rest))⟩

section Read

variable (headerProtocol frameLength stripped : UInt32) {header : Bytes} (rest : Bytes)

theorem said_rawHeader (fits : header.length < UInt32.size) :
    (rawHeader headerProtocol frameLength stripped header rest).said
      = .ok (.rawHeader headerProtocol frameLength header) := by
  have back : (UInt32.ofNat header.length).toNat = header.length := UInt32.toNat_ofNat_of_lt' fits
  have read : SampleRecord.readRawHeader (rawHeader headerProtocol frameLength stripped header rest).body
      = .ok (.rawHeader headerProtocol frameLength header, rest) := by
    unfold SampleRecord.readRawHeader rawHeader
    rw [Reader.bind_ok (read_word ..), Reader.bind_ok (read_word ..), Reader.bind_ok (read_word ..)]
    show (Reader.u32 _ >>= _) (Bytes.ofNat 4 header.length ++ _) = _
    rw [Reader.bind_ok (Reader.u32_ofNat _ fits _), Reader.bind_ok (Reader.take_append back.symm rest)]
    rfl
  have reader : SampleRecord.read (.ofWord 1) = SampleRecord.readRawHeader := rfl
  apply WrittenBlock.said_of_read
  rw [show (rawHeader headerProtocol frameLength stripped header rest).format = 1 from rfl, reader]
  exact read

theorem step_rawHeader (fits : header.length < UInt32.size) (record : FlowRecord) :
    step record (rawHeader headerProtocol frameLength stripped header rest)
      = SampleRecord.apply record (.rawHeader headerProtocol frameLength header) :=
  WrittenBlock.step_of_ok (said_rawHeader headerProtocol frameLength stripped rest fits) record

theorem failure?_rawHeader (fits : header.length < UInt32.size) :
    failure? (rawHeader headerProtocol frameLength stripped header rest) = none :=
  WrittenBlock.failure?_of_ok (said_rawHeader headerProtocol frameLength stripped rest fits)

end Read

/-! ## Tags -/

theorem length_le_tagged (tags : List Tag) (frame : Bytes) : frame.length ≤ (tagged tags frame).length := by
  simp only [tagged, List.length_append, List.length_take, List.length_drop]
  omega

/-- A record with the front of a `tagged` frame can be read, and changes a flow record as one with the frame without
its tags does, if both tell the same length. -/
theorem step_tagged (record : FlowRecord) (tags : List Tag) (frame : Bytes) (long : 14 ≤ frame.length)
    (fits : (tagged tags frame).length < UInt32.size) (frameLength stripped stripped' : UInt32) (rest rest' : Bytes) :
    let withTags := rawHeader 1 frameLength stripped (tagged tags frame) rest
    let without := rawHeader 1 frameLength stripped' frame rest'
    failure? withTags = none ∧ failure? without = none ∧ step record withTags = step record without := by
  intro withTags without
  have fits' : frame.length < UInt32.size := Nat.lt_of_le_of_lt (length_le_tagged tags frame) fits
  refine ⟨failure?_rawHeader _ _ _ rest fits, failure?_rawHeader _ _ _ rest' fits', ?_⟩
  have same (record : FlowRecord) : record.withFrame (tagged tags frame) = record.withFrame frame := by
    simp only [FlowRecord.withFrame, ethernet?_tagged tags long]
  rw [step_rawHeader _ _ _ _ fits, step_rawHeader _ _ _ _ fits']
  exact same { record with bytes := frameLength.toUInt64 }

/-- A frame with an outer and an inner tag, cut off behind the ports. -/
theorem step_tagged_twice :
    let addresses : FrameAddresses := ⟨List.replicate 12 2, rfl⟩
    let header : Ipv4Header :=
      ⟨0, 60, 1, 0x4000, 64, 0, ⟨10, 0, 0, 1⟩, ⟨10, 0, 0, 2⟩, ⟨0, [], rfl⟩⟩
    let frame := (frameOf addresses ⟨.v4 header, .udp ⟨53, 5353, 40, 0⟩ (List.replicate 32 7)⟩).take 42
    let tags : List Tag := [⟨true, 0, 9⟩, ⟨false, 0x60, 100⟩]
    let record := FlowRecord.blank .unspecified 0
    14 ≤ frame.length ∧ (tagged tags frame).length < UInt32.size
      ∧ step record (rawHeader 1 74 32 (tagged tags frame) [0, 0]) = step record (rawHeader 1 74 32 frame [])
      ∧ (step record (rawHeader 1 74 32 frame [])).destinationPort = 5353 := by
  intro addresses header frame tags record
  have long : 14 ≤ frame.length := by decide
  have fits : (tagged tags frame).length < UInt32.size := by decide
  exact ⟨long, fits, (step_tagged record tags frame long fits 74 32 32 [0, 0] []).2.2, by decide +kernel⟩

/-! ## Fronts that were cut off -/

theorem shortened_apply (record : FlowRecord) (headerProtocol frameLength : UInt32) (front behind : Bytes) :
    FlowRecord.Shortened record (SampleRecord.apply record (.rawHeader headerProtocol frameLength (front ++ behind)))
      (SampleRecord.apply record (.rawHeader headerProtocol frameLength front)) := by
  -- The length of the packet is filled in first, and no header says anything of it.
  have sized {full short : FlowRecord}
      (h : FlowRecord.Shortened { record with bytes := frameLength.toUInt64 } full short) :
      FlowRecord.Shortened record full short :=
    ⟨h.etherType, h.sourceAddress, h.destinationAddress, h.protocol, h.sourcePort, h.destinationPort, h.tcpFlags,
      h.others⟩
  simp only [SampleRecord.apply]
  split
  · exact sized (FlowRecord.shortened_withFrame _ front behind)
  · split
    · exact sized (FlowRecord.shortened_withPacket _ .ipv4 front behind)
    · split
      · exact sized (FlowRecord.shortened_withPacket _ .ipv6 front behind)
      · exact .refl record _

/-- Of a front that was cut off at any place, each thing that headers say is either not learned at all or as it would
be from the whole front (`Shortened`), and everything else is the same. -/
theorem shortened_step (record : FlowRecord) (headerProtocol frameLength stripped stripped' : UInt32)
    (header front : Bytes) (cut : front <+: header) (fits : header.length < UInt32.size) (rest rest' : Bytes) :
    let whole := rawHeader headerProtocol frameLength stripped header rest
    let part := rawHeader headerProtocol frameLength stripped' front rest'
    failure? whole = none ∧ failure? part = none
      ∧ FlowRecord.Shortened record (step record whole) (step record part) := by
  intro whole part
  have fits' : front.length < UInt32.size := Nat.lt_of_le_of_lt cut.length_le fits
  refine ⟨failure?_rawHeader _ _ _ rest fits, failure?_rawHeader _ _ _ rest' fits', ?_⟩
  obtain ⟨behind, rfl⟩ := cut
  rw [step_rawHeader _ _ _ _ fits, step_rawHeader _ _ _ _ fits']
  exact shortened_apply record headerProtocol frameLength front behind

/-- A front that ends in the middle of the TCP header: the addresses are learned, and the ports are not. -/
theorem shortened_step_within_tcp :
    let header : Ipv6Header :=
      ⟨0, 0, 20, 64, ⟨[0x2001, 0xdb8, 0, 0, 0, 0, 0, 1], rfl⟩, ⟨[0x2001, 0xdb8, 0, 0, 0, 0, 0, 2], rfl⟩⟩
    let packet : WrittenPacket := ⟨.v6 header, .tcp ⟨443, 50000, 1, 2, 0, 0x12, 1024, 0, 0, ⟨0, [], rfl⟩⟩ []⟩
    let front := packet.encode.take 52
    let record := { FlowRecord.blank .unspecified 0 with sourcePort := 8 }
    let whole := step record (rawHeader 12 1500 0 packet.encode [])
    let part := step record (rawHeader 12 1500 8 front [])
    front <+: packet.encode ∧ packet.encode.length < UInt32.size ∧ FlowRecord.Shortened record whole part
      ∧ part.sourceAddress = whole.sourceAddress ∧ part.sourceAddress ≠ record.sourceAddress
      ∧ part.sourcePort = record.sourcePort ∧ part.sourcePort ≠ whole.sourcePort := by
  intro header packet front record whole part
  have cut : front <+: packet.encode := List.take_prefix ..
  have fits : packet.encode.length < UInt32.size := by decide
  have shortened := (shortened_step record 12 1500 0 8 packet.encode front cut fits [] []).2.2
  exact ⟨cut, fits, shortened, by decide +kernel⟩

/-! ## Fronts that are there as a whole -/

/-- How a packet is sent: in a frame with its addresses and bytes behind it, or from its Internet header on. -/
inductive Delivery where
  | ethernet (addresses : FrameAddresses)
  | direct
  deriving DecidableEq, Repr

namespace Delivery

/-- The number of what the front starts with, which tells `SampleRecord.apply` whether it is a frame or one of the two
Internet headers. -/
def headerProtocol (packet : WrittenPacket) : Delivery → UInt32
  | ethernet _ => 1
  | direct =>
    match packet.header with
    | .v4 _ => 11
    | .v6 _ => 12

def header (packet : WrittenPacket) : Delivery → Bytes
  | ethernet addresses => frameOf addresses packet
  | direct => packet.encode

end Delivery

theorem apply_header (record : FlowRecord) (packet : WrittenPacket) (delivery : Delivery) (frameLength : UInt32) :
    SampleRecord.apply record (.rawHeader (delivery.headerProtocol packet) frameLength (delivery.header packet))
      = packet.describe { record with bytes := frameLength.toUInt64 } := by
  cases delivery with
  | ethernet addresses => exact withFrame_frameOf addresses packet _
  | direct =>
    obtain ⟨header, payload⟩ := packet
    cases header with
    | v4 header => exact withPacket_encode ⟨.v4 header, payload⟩ _
    | v6 header => exact withPacket_encode ⟨.v6 header, payload⟩ _

/-- Whatever a `WrittenPacket` says, and however it is sent, the record with its front fills in the addresses, the
protocol, the ether type, the ports and flags if there are any, the length, and nothing else: it comes to
`WrittenPacket.describe`. -/
theorem step_header (record : FlowRecord) (packet : WrittenPacket) (delivery : Delivery) (frameLength stripped : UInt32)
    (rest : Bytes) (fits : (delivery.header packet).length < UInt32.size) :
    let block := rawHeader (delivery.headerProtocol packet) frameLength stripped (delivery.header packet) rest
    failure? block = none
      ∧ step record block = { record with
          bytes := frameLength.toUInt64
          etherType := packet.header.etherType
          sourceAddress := packet.header.source
          destinationAddress := packet.header.destination
          protocol := packet.payload.protocol
          sourcePort := packet.payload.sourcePort?.getD record.sourcePort
          destinationPort := packet.payload.destinationPort?.getD record.destinationPort
          tcpFlags := packet.payload.tcpFlags?.getD record.tcpFlags } := by
  intro block
  refine ⟨failure?_rawHeader _ _ _ rest fits, ?_⟩
  rw [step_rawHeader _ _ _ _ fits, apply_header]
  rfl

/-- Both headers with options, in a frame with bytes behind the packet. -/
theorem step_header_with_options :
    let addresses : FrameAddresses := ⟨List.replicate 12 2, rfl⟩
    let header : Ipv4Header :=
      ⟨0, 64, 1, 0x4000, 64, 0, ⟨10, 0, 0, 1⟩, ⟨10, 0, 0, 2⟩, ⟨1, [148, 4, 0, 0], rfl⟩⟩
    let segment : TcpHeader := ⟨443, 50000, 1, 2, 0, 0x12, 1024, 0, 0, ⟨2, [2, 4, 5, 180, 1, 1, 4, 2], rfl⟩⟩
    let packet : WrittenPacket := ⟨.v4 header, .tcp segment [1, 2, 3]⟩
    let delivery := Delivery.ethernet addresses
    let record := FlowRecord.blank .unspecified 0
    (delivery.header packet).length < UInt32.size
      ∧ step record (rawHeader (delivery.headerProtocol packet) 1518 4 (delivery.header packet) [])
        = { record with
            bytes := 1518
            etherType := 0x0800
            sourceAddress := .v4 ⟨10, 0, 0, 1⟩
            destinationAddress := .v4 ⟨10, 0, 0, 2⟩
            protocol := 6
            sourcePort := 443
            destinationPort := 50000
            tcpFlags := 0x12 } := by
  intro addresses header segment packet delivery record
  have fits : (delivery.header packet).length < UInt32.size := by decide
  exact ⟨fits, (step_header record packet delivery 1518 4 [] fits).2⟩

end FlowCollector.Sflow
