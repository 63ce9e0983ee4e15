import FlowCollector.Proofs.Sflow.Records

/-!
# When a sample gives a flow record

A flow sample gives a record if one of the records in its row is about the packet, and that is seen by the format
alone. So what is given describes a packet as long as one of those can be read. If there are some and none of them can
be, a record is given all the same, and it says nothing of a packet: it is as blank as before, beside the errors.
-/

set_option autoImplicit false

namespace FlowCollector

/-- What a flow record says of the packets it is about, apart from their number: the members that a packet record or a
packet header may fill in. -/
structure FlowRecord.PacketPart where
  bytes : UInt64
  protocol : UInt8
  sourceAddress : IpAddress
  destinationAddress : IpAddress
  sourcePort : UInt16
  destinationPort : UInt16
  tcpFlags : UInt8
  etherType : EtherType
  deriving DecidableEq, Repr

/-- What a record says of its packets, as a `PacketPart` of its own. -/
def FlowRecord.packetPart (record : FlowRecord) : PacketPart where
  bytes := record.bytes
  protocol := record.protocol
  sourceAddress := record.sourceAddress
  destinationAddress := record.destinationAddress
  sourcePort := record.sourcePort
  destinationPort := record.destinationPort
  tcpFlags := record.tcpFlags
  etherType := record.etherType

/-- A record that says nothing of its packets, as `FlowRecord.blank` makes it. -/
def FlowRecord.PacketPart.unknown : PacketPart where
  bytes := 0
  protocol := 0
  sourceAddress := .unspecified
  destinationAddress := .unspecified
  sourcePort := 0
  destinationPort := 0
  tcpFlags := 0
  etherType := 0

/-- Nothing is inferred by `inferEtherType` where nothing is known. -/
theorem FlowRecord.packetPart_inferEtherType {record : FlowRecord} (unknown : record.packetPart = .unknown) :
    record.inferEtherType.packetPart = .unknown := by
  have etherType : record.etherType = 0 := congrArg PacketPart.etherType unknown
  have source : record.sourceAddress = .unspecified := congrArg PacketPart.sourceAddress unknown
  have destination : record.destinationAddress = .unspecified := congrArg PacketPart.destinationAddress unknown
  have suggested : suggestedEtherType record.sourceAddress record.destinationAddress = record.etherType := by
    rw [source, destination, etherType]
    rfl
  have same : record.inferEtherType = record := by
    rw [inferEtherType, if_pos etherType, suggested]
  rw [same, unknown]

namespace Sflow

open WrittenBlock (step failure?)

/-! ## Records that are not about the packet -/

namespace SampleRecord

/-- True of what is said of the way of the packet, by a router or a gateway, or of nothing. -/
inductive OfRoute : SampleRecord → Prop
  | router (nextHop : Option IpAddress) (sourceMask destinationMask : UInt32) :
    OfRoute (.router nextHop sourceMask destinationMask)
  | gateway (nextHop : Option IpAddress) (sourceAs : UInt32) (path : List UInt32) :
    OfRoute (.gateway nextHop sourceAs path)
  | ignored : OfRoute .ignored

theorem OfRoute.packetPart_apply {said : SampleRecord} (route : OfRoute said) (record : FlowRecord) :
    (said.apply record).packetPart = record.packetPart := by
  cases route <;> rfl

theorem gives_readRouter : Reader.Gives readRouter OfRoute := by
  unfold readRouter
  exact .skip fun _ => .skip fun _ => .skip fun _ => .pure (.router ..)

theorem gives_readGateway : Reader.Gives readGateway OfRoute := by
  unfold readGateway
  exact .skip fun _ => .skip fun _ => .skip fun _ => .skip fun _ => .skip fun _ => .skip fun _ => .pure (.gateway ..)

theorem gives_read {format : Format} (other : describesPacket format = false) :
    Reader.Gives (read format) OfRoute := by
  unfold read
  split
  · exact .pure .ignored
  · rename_i own
    have standard : format.enterprise = 0 := Decidable.not_not.1 own
    simp only [describesPacket, standard, beq_self_eq_true, Bool.true_and, Bool.or_eq_false_iff, beq_eq_false_iff_ne]
      at other
    split
    · rename_i same
      exact absurd same other.1.1
    · rename_i same
      exact absurd same other.1.2
    · rename_i same
      exact absurd same other.2
    · exact gives_readRouter
    · exact gives_readGateway
    · exact .pure .ignored

end SampleRecord

namespace WrittenBlock

/-- True of a record that is about the packet (`isPacket`) and can be read. -/
def isReadable (block : WrittenBlock) : Bool := block.isPacket && block.failure?.isNone

/-- A record that does not describe the packet, whether it is about something else or cannot be read, says nothing of
the packet: `step` keeps the `packetPart`. -/
theorem packetPart_step {block : WrittenBlock} (unread : block.isReadable = false) (record : FlowRecord) :
    (step record block).packetPart = record.packetPart := by
  unfold isReadable failure? at unread
  unfold step
  cases read : block.said with
  | error error => rfl
  | ok said =>
    simp only [read, Option.isNone_none, Bool.and_true] at unread
    rw [← describesPacket_cut] at unread
    obtain ⟨rest, found⟩ := exists_read_of_ok read
    exact (SampleRecord.gives_read unread _ _ _ found).packetPart_apply record

end WrittenBlock

theorem packetPart_foldl {blocks : List WrittenBlock} (unread : blocks.any WrittenBlock.isReadable = false)
    (record : FlowRecord) : (blocks.foldl step record).packetPart = record.packetPart := by
  induction blocks generalizing record with
  | nil => rfl
  | cons block others ih =>
    obtain ⟨own, behind⟩ := Bool.or_eq_false_iff.1 (List.any_cons.symm.trans unread)
    rw [List.foldl_cons, ih behind, WrittenBlock.packetPart_step own]

/-! ## What a sample gives -/

theorem any_isPacket_of_isReadable {blocks : List WrittenBlock} (readable : blocks.any WrittenBlock.isReadable) :
    blocks.any WrittenBlock.isPacket := by
  obtain ⟨block, mem, own⟩ := List.any_eq_true.1 readable
  exact List.any_eq_true.2 ⟨block, mem, (Bool.and_eq_true_iff.1 own).1⟩

/-- Where a record is about the packet and none can be read, there is an error that says why, the `failure?` of that
record. -/
theorem exists_failure {blocks : List WrittenBlock} (about : blocks.any WrittenBlock.isPacket)
    (unread : blocks.any WrittenBlock.isReadable = false) :
    ∃ place declared available, DecodeError.malformedLength place declared available ∈ blocks.filterMap failure? := by
  obtain ⟨block, mem, own⟩ := List.any_eq_true.1 about
  have lost : block.isReadable = false := by
    by_contra other
    have some_read : blocks.any WrittenBlock.isReadable := List.any_eq_true.2 ⟨block, mem, by simpa using other⟩
    rw [unread] at some_read
    cases some_read
  cases read : block.said with
  | ok said =>
    rw [WrittenBlock.isReadable, own, WrittenBlock.failure?_of_ok read] at lost
    cases lost
  | error error =>
    obtain ⟨place, declared, available, cost⟩ := WrittenBlock.failure?_of_error read
    exact ⟨place, declared, available, List.mem_filterMap.2 ⟨block, mem, cost⟩⟩

/-- Only a sample that can be read gives a flow record by `FlowSample.decode`, and it does if one of its records is
about the packet (`isPacket`). As long as one of those can be read, too, what is given describes a packet. Where none
of them can be, a record is given all the same: its `packetPart` is `unknown`, and an error says why. -/
theorem emits_iff (form : Form) (exporter : IpAddress) (timeReceived : UInt64) (body : Bytes) :
    let decoded := FlowSample.decode form exporter timeReceived body
    ((∃ record, decoded.outcome = .ok (some record)) →
      ∃ (lead : Lead form) (blocks : List WrittenBlock), IsSample body lead blocks)
    ∧ ∀ (lead : Lead form) (blocks : List WrittenBlock), IsSample body lead blocks →
      ((∃ record, decoded.outcome = .ok (some record)) ↔ blocks.any WrittenBlock.isPacket)
      ∧ ((blocks.any WrittenBlock.isPacket → blocks.any WrittenBlock.isReadable) →
        ((∃ record, decoded.outcome = .ok (some record)) ↔ blocks.any WrittenBlock.isReadable))
      ∧ (blocks.any WrittenBlock.isPacket → blocks.any WrittenBlock.isReadable = false →
        (∃ record, decoded.outcome = .ok (some record) ∧ record.packetPart = .unknown)
          ∧ ∃ place declared available, .malformedLength place declared available ∈ decoded.errors) := by
  intro decoded
  refine ⟨fun ⟨_, given⟩ => exists_isSample given, fun lead blocks sample => ?_⟩
  have whole : decoded = _ := sample.decode exporter timeReceived
  have emits : (∃ record, decoded.outcome = .ok (some record)) ↔ blocks.any WrittenBlock.isPacket := by
    rw [whole]
    cases about : blocks.any WrittenBlock.isPacket <;> simp
  refine ⟨emits, fun condition => ?_, fun about unread => ⟨?_, ?_⟩⟩
  · exact emits.trans ⟨condition, any_isPacket_of_isReadable⟩
  · have blank : (lead.initial exporter timeReceived).packetPart = .unknown := rfl
    refine ⟨_, (congrArg FlowSample.Result.outcome whole).trans (congrArg Except.ok (if_pos about)), ?_⟩
    exact FlowRecord.packetPart_inferEtherType ((packetPart_foldl unread _).trans blank)
  · rw [whole]
    exact exists_failure about unread

/-- A raw header of four bytes cannot be read. If it stands alone a flow record is given that knows of no packet; if the
fields of the packet stand behind it, what is given describes that packet. -/
theorem emits_iff_short_header :
    let lead : Lead .compact := .compact 1 0 512 0 0 3 4
    let short : WrittenBlock := ⟨1, [0, 0, 0, 1]⟩
    let packet : WrittenBlock := ⟨3, spell [90, 17, 0x0a000001, 0x0a000002, 53, 5353, 0, 0]⟩
    let decoded := FlowSample.decode .compact (.v4 ⟨192, 0, 2, 10⟩) 1700000000
    (∃ record, (decoded (sampleOf lead [short] [])).outcome = .ok (some record) ∧ record.packetPart = .unknown)
      ∧ ([short, packet].any WrittenBlock.isPacket → [short, packet].any WrittenBlock.isReadable)
      ∧ ∃ record, (decoded (sampleOf lead [short, packet] [])).outcome = .ok (some record) := by
  intro lead short packet decoded
  have alone : IsSample (sampleOf lead [short] []) lead [short] := ⟨by decide, by decide, [], rfl⟩
  have both : IsSample (sampleOf lead [short, packet] []) lead [short, packet] := ⟨by decide, by decide, [], rfl⟩
  have readable : [short, packet].any WrittenBlock.isReadable := by decide +kernel
  obtain ⟨-, given⟩ := emits_iff .compact (.v4 ⟨192, 0, 2, 10⟩) 1700000000 (sampleOf lead [short, packet] [])
  obtain ⟨-, ghost⟩ := emits_iff .compact (.v4 ⟨192, 0, 2, 10⟩) 1700000000 (sampleOf lead [short] [])
  refine ⟨((ghost lead _ alone).2.2 (by decide) (by decide +kernel)).1, fun _ => readable, ?_⟩
  exact ((given lead _ both).2.1 fun _ => readable).2 readable

/-- So it is not so that only a packet that was read gives a flow record. -/
theorem exists_emitted_without_packet :
    let lead : Lead .compact := .compact 1 0 512 0 0 3 4
    let short : WrittenBlock := ⟨1, [0, 0, 0, 1]⟩
    let decoded := FlowSample.decode .compact (.v4 ⟨192, 0, 2, 10⟩) 1700000000 (sampleOf lead [short] [])
    IsSample (sampleOf lead [short] []) lead [short]
      ∧ (∃ record, decoded.outcome = .ok (some record))
      ∧ ¬ ∃ block ∈ [short], block.isPacket ∧ block.failure? = none := by
  intro lead short decoded
  have sample : IsSample (sampleOf lead [short] []) lead [short] := ⟨by decide, by decide, [], rfl⟩
  have outcome := (congrArg FlowSample.Result.outcome (sample.decode (.v4 ⟨192, 0, 2, 10⟩) 1700000000)).trans
    (congrArg Except.ok (if_pos (by decide)))
  exact ⟨sample, ⟨_, outcome⟩, by decide +kernel⟩

end Sflow

end FlowCollector
