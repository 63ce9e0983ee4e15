import FlowCollector.Proofs.Element
import FlowCollector.Proofs.Evolution
import FlowCollector.Proofs.PacketHeader

/-!
# What every flow record says

Whatever is decoded, a flow record says who sent it and when, it has a sampling rate that is not zero, and
it has an ether type unless it knows no address. The three formats build their records in three ways, and
what each of them keeps is stated for its smallest step: a field, a record of a sample, the fields of a
NetFlow 5 record.

The rate of a record may come from an earlier datagram. So the rates that the store remembers have to be
good before, and they stay good because decoding evolves the store.
-/

set_option autoImplicit false

namespace FlowCollector

open Netflow

namespace FlowRecord

/-- The origin of the records of an exporter: its address, with the text of that for a name, and no group. -/
def Origin.of (exporter : IpAddress) (timeReceived : UInt64) : Origin :=
  ⟨exporter, exporter.text, "", timeReceived⟩

/-- What is true of every record that comes of a datagram, whichever of the three formats it has. -/
structure WellFormed (exporter : IpAddress) (timeReceived : UInt64) (record : FlowRecord) : Prop where
  exporterAddress : record.exporterAddress = exporter
  exporterName : record.exporterName = exporter.text
  exporterGroup : record.exporterGroup = ""
  timeReceived : record.timeReceived = timeReceived
  samplingRate : 1 ≤ record.samplingRate
  etherType : record.etherType = 0 →
    record.sourceAddress = .v4 ⟨0, 0, 0, 0⟩ ∧ record.destinationAddress = .v4 ⟨0, 0, 0, 0⟩

variable {exporter : IpAddress} {timeReceived : UInt64} {record : FlowRecord}

theorem WellFormed.of_origin (sent : record.origin = .of exporter timeReceived)
    (rate : 1 ≤ record.samplingRate)
    (etherType : record.etherType = 0 →
      record.sourceAddress = .v4 ⟨0, 0, 0, 0⟩ ∧ record.destinationAddress = .v4 ⟨0, 0, 0, 0⟩) :
    record.WellFormed exporter timeReceived :=
  ⟨congrArg Origin.exporterAddress sent, congrArg Origin.exporterName sent,
    congrArg Origin.exporterGroup sent, congrArg Origin.timeReceived sent, rate, etherType⟩

theorem suggestedEtherType_eq_zero {source destination : IpAddress}
    (h : suggestedEtherType source destination = 0) :
    source = .v4 ⟨0, 0, 0, 0⟩ ∧ destination = .v4 ⟨0, 0, 0, 0⟩ := by
  have unknown : ∀ address : IpAddress, address.isV6 = false → address.isUnspecified = true →
      address = .v4 ⟨0, 0, 0, 0⟩ := by
    intro address old none_known
    cases address with
    | v4 address => simpa [IpAddress.isUnspecified, Ipv4.unspecified] using none_known
    | v6 address => cases old
  unfold suggestedEtherType at h
  split at h
  · cases h
  · rename_i old
    split at h
    · rename_i none_known
      simp only [Bool.or_eq_true, not_or, Bool.not_eq_true] at old
      simp only [Bool.and_eq_true] at none_known
      exact ⟨unknown source old.1 none_known.1, unknown destination old.2 none_known.2⟩
    · cases h

theorem inferEtherType_eq_zero (h : record.inferEtherType.etherType = 0) :
    record.inferEtherType.sourceAddress = .v4 ⟨0, 0, 0, 0⟩
      ∧ record.inferEtherType.destinationAddress = .v4 ⟨0, 0, 0, 0⟩ := by
  unfold inferEtherType at h ⊢
  split
  · rename_i missing
    rw [if_pos missing] at h
    exact suggestedEtherType_eq_zero h
  · rename_i given
    rw [if_neg given] at h
    exact absurd h given

/-- Inferring the ether type leaves all else as it is, and so what `WellFormed` says of it. -/
theorem inferEtherType_frame (record : FlowRecord) :
    ∃ etherType, record.inferEtherType = { record with etherType } := by
  unfold inferEtherType
  split
  · exact ⟨_, rfl⟩
  · exact ⟨record.etherType, rfl⟩

theorem wellFormed_inferEtherType (sent : record.origin = .of exporter timeReceived)
    (rate : 1 ≤ record.samplingRate) : record.inferEtherType.WellFormed exporter timeReceived := by
  obtain ⟨etherType, inferred⟩ := record.inferEtherType_frame
  refine .of_origin ?_ ?_ inferEtherType_eq_zero
  · rw [inferred]
    exact sent
  · rw [inferred]
    exact rate

end FlowRecord

/-! ## NetFlow 5 -/

namespace Netflow.Version5

theorem Header.one_le_samplingRate (header : Header) : 1 ≤ header.samplingRate := by
  unfold Header.samplingRate
  split
  · decide
  · rename_i some_interval
    have nonzero : header.samplingInterval.toNat ≠ 0 :=
      fun zero => some_interval (UInt16.toNat_inj.1 zero)
    rw [UInt64.le_iff_toNat_le, UInt16.toNat_toUInt64]
    exact Nat.one_le_iff_ne_zero.2 nonzero

/-- What is true of every record of NetFlow 5, apart from where it comes from: all of its addresses are of four
bytes. -/
structure Plain (record : FlowRecord) : Prop where
  etherType : record.etherType = 0x0800
  source : ∃ address, record.sourceAddress = .v4 address
  destination : ∃ address, record.destinationAddress = .v4 address
  nextHop : ∀ hop, record.nextHop = some hop → ∃ address, hop = .v4 address

theorem gives_readFields (blank : FlowRecord) :
    Reader.Gives (readFields blank) fun record =>
      record.origin = blank.origin ∧ record.samplingRate = blank.samplingRate ∧ Plain record := by
  unfold readFields
  -- Every field is read before the record is made, so nothing has to be known of what was read.
  repeat refine .skip fun _ => ?_
  refine .pure ⟨rfl, rfl, rfl, ⟨_, rfl⟩, ⟨_, rfl⟩, ?_⟩
  intro hop known
  dsimp only at known
  split at known
  · cases known
  · exact ⟨_, (Option.some.inj known).symm⟩

theorem wellFormed_decode {exporter : IpAddress} {timeReceived : UInt64} {payload : Bytes}
    {record : FlowRecord} (mem : record ∈ (Version5.decode exporter timeReceived payload).records) :
    record.WellFormed exporter timeReceived ∧ Plain record := by
  unfold Version5.decode at mem
  split at mem
  · cases mem
  · rename_i header rest read
    simp only [Decoded.records_foldr, Decoded.ofErrors, List.append_nil, List.mem_flatMap,
      List.mem_map] at mem
    obtain ⟨_, ⟨bytes, -, rfl⟩, mem⟩ := mem
    unfold decodeRecord at mem
    split at mem
    · rename_i made behind fields
      obtain rfl := List.mem_singleton.1 mem
      obtain ⟨origin, rate, plain⟩ := gives_readFields _ _ _ _ fields
      refine ⟨.of_origin origin ?_ fun zero => ?_, plain⟩
      · rw [rate]
        exact header.one_le_samplingRate
      · exact absurd (plain.etherType.symm.trans zero) (by decide)
    · cases mem

end Netflow.Version5

/-! ## sFlow -/

/-- Two records that say the same of the sample they are about, whatever they say of the packet in it. -/
structure FlowRecord.SameSample (record other : FlowRecord) : Prop where
  origin : other.origin = record.origin
  samplingRate : other.samplingRate = record.samplingRate
  packets : other.packets = record.packets
  forwardingStatus : other.forwardingStatus = record.forwardingStatus
  inputInterface : other.inputInterface = record.inputInterface
  outputInterface : other.outputInterface = record.outputInterface

namespace FlowRecord

theorem SameSample.refl (record : FlowRecord) : record.SameSample record := ⟨rfl, rfl, rfl, rfl, rfl, rfl⟩

theorem SameSample.trans {first second third : FlowRecord} (h : first.SameSample second)
    (h' : second.SameSample third) : first.SameSample third :=
  ⟨h'.origin.trans h.origin, h'.samplingRate.trans h.samplingRate, h'.packets.trans h.packets,
    h'.forwardingStatus.trans h.forwardingStatus, h'.inputInterface.trans h.inputInterface,
    h'.outputInterface.trans h.outputInterface⟩

theorem SameApart.sameSample {record other : FlowRecord} (same : record.SameApart other) :
    record.SameSample other := by
  rw [SameApart] at same
  rw [same]
  exact ⟨rfl, rfl, rfl, rfl, rfl, rfl⟩

theorem sameSample_inferEtherType (record : FlowRecord) : record.SameSample record.inferEtherType := by
  obtain ⟨etherType, inferred⟩ := record.inferEtherType_frame
  rw [inferred]
  exact ⟨rfl, rfl, rfl, rfl, rfl, rfl⟩

end FlowRecord

namespace Sflow

/-- What `SampleRecord.apply` fills in says something of the packet, and nothing of the sample. -/
theorem sameSample_apply (record : FlowRecord) (said : SampleRecord) :
    record.SameSample (said.apply record) := by
  cases said with
  | rawHeader headerProtocol frameLength header =>
    have sized : record.SameSample { record with bytes := frameLength.toUInt64 } := ⟨rfl, rfl, rfl, rfl, rfl, rfl⟩
    simp only [SampleRecord.apply]
    split
    · exact sized.trans (FlowRecord.sameApart_withFrame _ header).sameSample
    · split
      · exact sized.trans (FlowRecord.sameApart_withPacket _ .ipv4 header).sameSample
      · split
        · exact sized.trans (FlowRecord.sameApart_withPacket _ .ipv6 header).sameSample
        · exact sized
  | sampledIp fields => exact ⟨rfl, rfl, rfl, rfl, rfl, rfl⟩
  | router nextHop sourceMask destinationMask => exact ⟨rfl, rfl, rfl, rfl, rfl, rfl⟩
  | gateway nextHop sourceAs path => exact ⟨rfl, rfl, rfl, rfl, rfl, rfl⟩
  | ignored => exact .refl record

theorem FlowSample.sameSample_useBlocks (record : FlowRecord) (blocks : List Block) :
    record.SameSample (useBlocks record blocks).1 := by
  induction blocks generalizing record with
  | nil => exact .refl record
  | cons block others ih =>
    have used : record.SameSample (useBlock record block).1 := by
      unfold useBlock
      split
      · exact sameSample_apply record _
      · exact .refl record
    exact used.trans (ih _)

theorem SampleHeader.one_le_samplingRate (header : SampleHeader) (exporter : IpAddress)
    (timeReceived : UInt64) : 1 ≤ (header.blank exporter timeReceived).samplingRate := by
  simp only [blank]
  split
  · decide
  · rename_i some_rate
    have nonzero : header.samplingRate.toNat ≠ 0 := fun zero => some_rate (UInt32.toNat_inj.1 zero)
    rw [UInt64.le_iff_toNat_le, UInt32.toNat_toUInt64]
    exact Nat.one_le_iff_ne_zero.2 nonzero

theorem FlowSample.wellFormed_decode {form : Form} {exporter : IpAddress} {timeReceived : UInt64}
    {body : Bytes} {record : FlowRecord}
    (h : (decode form exporter timeReceived body).outcome = .ok (some record)) :
    record.WellFormed exporter timeReceived ∧ record.packets = 1 ∧ record.forwardingStatus = 0 := by
  unfold decode at h
  split at h
  · cases h
  · rename_i header rest read
    dsimp only at h
    split at h
    · cases h
    · split at h
      · obtain rfl := Option.some.inj (Except.ok.inj h)
        have used := sameSample_useBlocks (header.blank exporter timeReceived)
          (Reader.upTo header.recordCount.toNat Block.read rest).1
        have inferred := used.trans (FlowRecord.sameSample_inferEtherType _)
        refine ⟨FlowRecord.wellFormed_inferEtherType used.origin ?_, inferred.packets, inferred.forwardingStatus⟩
        rw [used.samplingRate]
        exact header.one_le_samplingRate exporter timeReceived
      · cases h

theorem wellFormed_decode {exporter : IpAddress} {timeReceived : UInt64} {payload : Bytes}
    {record : FlowRecord} (mem : record ∈ (decode exporter timeReceived payload).records) :
    record.WellFormed exporter timeReceived ∧ record.packets = 1 ∧ record.forwardingStatus = 0 := by
  unfold decode at mem
  split at mem
  · cases mem
  · simp only [Decoded.records_foldr, Decoded.ofErrors, List.append_nil, List.mem_flatMap,
      List.mem_map] at mem
    obtain ⟨_, ⟨raw, -, rfl⟩, mem⟩ := mem
    cases raw with
    | overlong declared available => cases mem
    | framed format body =>
      simp only [RawSample.decode] at mem
      split at mem
      · unfold FlowSample.Result.toDecoded at mem
        split at mem
        · rename_i flow outcome
          rw [Option.mem_toList] at mem
          exact FlowSample.wellFormed_decode (outcome.trans (congrArg Except.ok mem))
        · cases mem
      · cases mem

end Sflow

/-! ## Messages of sets -/

/-- Every record that a step gives is good, over a store that is `RatesPositive`. -/
def Yields (Good : FlowRecord → Prop) (step : Store → Decoded × Store) : Prop :=
  ∀ store : Store, store.RatesPositive → ∀ record ∈ (step store).1.records, Good record

theorem Yields.sequence {α : Type} {Good : FlowRecord → Prop} {part : α → Store → Decoded × Store}
    (evolving : ∀ item, Evolving (part item)) (good : ∀ item, Yields Good (part item))
    (items : List α) : Yields Good (Decoded.sequence part items) := by
  induction items with
  | nil => exact fun _ _ record mem => nomatch mem
  | cons item others ih =>
    intro store positive record mem
    rcases List.mem_append.1 mem with first | rest
    · exact good item store positive record first
    -- The rates that the others see are positive because the item evolved the store.
    · exact ih _ ((evolving item store).ratesPositive positive) record rest

namespace Netflow.Session

variable (session : Session)

theorem one_le_samplingRate {store : Store} (positive : store.RatesPositive) (state : FieldState) :
    1 ≤ session.samplingRate state store := by
  unfold samplingRate
  split
  · rename_i rate own
    exact of_decide_eq_true (Option.filter_eq_some_iff.1 own).2
  · cases known : store.rate? (session.samplerKey (state.samplerId.getD 0)) with
    | none => decide
    | some rate => exact positive _ _ known

theorem yields_record (template : Template) (values : List Bytes) :
    Yields (FlowRecord.WellFormed session.exporter session.timeReceived)
      (session.record template values) := by
  intro store positive record mem
  have frame := FieldState.applyFields_frame (.start session.exporter session.timeReceived)
    (DataRecord.standardFields session.version template values)
  unfold Session.record at mem
  dsimp only at mem
  split at mem
  · split at mem <;> cases mem
  · rw [List.mem_singleton.1 mem]
    exact FlowRecord.wellFormed_inferEtherType frame.1 (session.one_le_samplingRate positive _)

theorem yields_dataSet (id : UInt16) (body : Bytes) :
    Yields (FlowRecord.WellFormed session.exporter session.timeReceived)
      (session.dataSet id body) := by
  intro store positive record mem
  unfold dataSet at mem
  split at mem
  · cases mem
  · rename_i template known
    unfold dataRecords at mem
    split at mem
    · cases mem
    · have records := Yields.sequence (session.evolving_record template)
        (session.yields_record template) (DataRecord.split template body).1
      simp only [Decoded.records_append, Decoded.ofErrors, List.append_nil] at mem
      exact records store positive record mem

theorem yields_set (raw : RawSet) :
    Yields (FlowRecord.WellFormed session.exporter session.timeReceived) (session.set raw) := by
  intro store positive record mem
  rcases session.set_cases raw with ⟨-, data⟩ | ⟨-, silent⟩
  · rw [data] at mem
    exact session.yields_dataSet _ _ store positive record mem
  · rw [(silent store).1] at mem
    cases mem

theorem yields_sets (body : Bytes) :
    Yields (FlowRecord.WellFormed session.exporter session.timeReceived) (session.sets body) := by
  intro store positive record mem
  simp only [sets, Decoded.records_append, Decoded.ofErrors, List.append_nil] at mem
  exact Yields.sequence session.evolving_set session.yields_set _ store positive record mem

end Netflow.Session

/-! ## Datagrams -/

theorem Packet.eq_of_message? {packet : Packet} {session : Session} {body : Body}
    (h : packet.message? = some (session, body)) :
    session.exporter = packet.exporter ∧ session.timeReceived = packet.timeReceived
      ∧ packet.protocol = .netflow ∧ ¬ packet.isVersion5 := by
  unfold message? at h
  split at h
  · cases h
  · rename_i version named
    split at h
    · cases h
    · obtain ⟨rfl, -⟩ := Prod.mk.inj (Option.some.inj h)
      refine ⟨rfl, rfl, ?_⟩
      unfold version? at named
      unfold isVersion5
      split at named <;> simp_all

/-- Every record that `Packet.decode` makes of any datagram is `WellFormed` for its exporter and time, over every
store that is `RatesPositive`. One of sFlow is about one packet and says nothing of how it was forwarded; one of
NetFlow 5 is `Plain`: it knows IPv4 addresses only. -/
theorem wellFormed_of_decode (packet : Packet) (store : Store) (positive : store.RatesPositive)
    (record : FlowRecord) (mem : record ∈ (packet.decode store).1.records) :
    record.WellFormed packet.exporter packet.timeReceived
      ∧ (packet.protocol = .sflow → record.packets = 1 ∧ record.forwardingStatus = 0)
      ∧ (packet.isVersion5 → Version5.Plain record) := by
  rcases packet.decode_cases with ⟨session, body, message, decoded⟩ | ⟨-, sflow, decoded⟩
    | ⟨-, five, decoded⟩ | ⟨-, error, decoded⟩
  · obtain ⟨exporter, timeReceived, netflow, notFive⟩ := packet.eq_of_message? message
    rw [decoded] at mem
    have good := session.yields_sets body.sets store positive record mem
    rw [exporter, timeReceived] at good
    refine ⟨good, fun sflow => ?_, fun five => absurd five notFive⟩
    rw [netflow] at sflow
    cases sflow
  · rw [decoded] at mem
    obtain ⟨good, own⟩ := Sflow.wellFormed_decode mem
    refine ⟨good, fun _ => own, fun five => ?_⟩
    simp [Packet.isVersion5, sflow] at five
  · rw [decoded] at mem
    obtain ⟨good, plain⟩ := Version5.wellFormed_decode mem
    refine ⟨good, fun sflow => ?_, fun _ => plain⟩
    simp [Packet.isVersion5, sflow] at five
  · rw [decoded] at mem
    cases mem

/-- A record of version 9 whose rate is the one that the store remembers and whose ether type comes from its
only address, and a record of NetFlow 5. -/
theorem wellFormed_of_decode_two_formats :
    let exporter : IpAddress := .v4 ⟨192, 0, 2, 1⟩
    let template : Template := ⟨.data, [⟨8, 4, none⟩]⟩
    let store := (Store.upsert ∅ ⟨exporter, 7, 256⟩ template).setRate ⟨exporter, 7, 0⟩ 512
    let header : Header := ⟨.v9, 7, List.replicate 14 0, rfl⟩
    let data : Packet := ⟨.netflow, exporter, 60, header.message (RawSet.encode ⟨256, [10, 0, 0, 1]⟩)⟩
    let five : Packet := ⟨.netflow, exporter, 60,
      [0, 5, 0, 1] ++ List.replicate 18 0 ++ [64, 100]
        ++ ([10, 0, 0, 1] ++ [10, 0, 0, 2] ++ List.replicate 40 0)⟩
    let first : FlowRecord := { FlowRecord.blank exporter 60 with
      samplingRate := 512, sourceAddress := .v4 ⟨10, 0, 0, 1⟩, etherType := 0x0800 }
    let second : FlowRecord := { FlowRecord.blank exporter 60 with
      samplingRate := 100, sourceAddress := .v4 ⟨10, 0, 0, 1⟩,
      destinationAddress := .v4 ⟨10, 0, 0, 2⟩, etherType := 0x0800 }
    store.RatesPositive ∧ first ∈ (data.decode store).1.records
      ∧ second ∈ (five.decode store).1.records
      ∧ first.WellFormed exporter 60 ∧ second.WellFormed exporter 60 ∧ Version5.Plain second := by
  intro exporter template store header data five first second
  have announced : template.Sound := ⟨fun _ => by decide, by decide, by decide⟩
  have learned : Store.Evolves ∅ 1 store :=
    (Store.Evolves.refl.upsert (by decide) announced).setRate _ (by decide)
  have positive : store.RatesPositive := learned.ratesPositive Store.sound_empty.rates
  have firstMem : first ∈ (data.decode store).1.records := by decide +kernel
  have secondMem : second ∈ (five.decode store).1.records := by decide +kernel
  obtain ⟨firstGood, -, -⟩ := wellFormed_of_decode data store positive first firstMem
  obtain ⟨secondGood, -, plain⟩ := wellFormed_of_decode five store positive second secondMem
  exact ⟨positive, firstMem, secondMem, firstGood, secondGood, plain (by decide)⟩

end FlowCollector
