import FlowCollector.Proofs.Netflow.Framing
import FlowCollector.Proofs.PacketHeader
import FlowCollector.Proofs.Reader.Taking

/-!
# NetFlow 5, byte by byte

Everything that a datagram of version 5 says stands at a fixed place: the header in the first 24 bytes and each record in
48 bytes behind those of the records before it. `recordOf` and `rateOf` are these places, as numbers, and decoding comes to
them whatever the bytes are. How many records there are is the count of the header or what the bytes have room for,
whichever is less; only the first can be a promise that is not kept, and that is one error.

Written datagrams are those whose count is right. They are read back, whatever stands behind them.
-/

set_option autoImplicit false

namespace FlowCollector

/-- Results of one record each are put together by `++` to the row of the records. -/
theorem Decoded.foldr_map_record {α : Type} (record : α → FlowRecord) (items : List α) (last : Decoded) :
    ((items.map fun item => (⟨[record item], [], 0⟩ : Decoded)).foldr (· ++ ·) last)
      = ⟨items.map record ++ last.records, last.errors, last.templatesUpserted⟩ := by
  induction items with
  | nil => rfl
  | cons item others ih =>
    rw [List.map_cons, List.foldr_cons, ih]
    exact Decoded.ext rfl rfl (Nat.zero_add _)

namespace Netflow.Version5

open PacketHeader (byteAt part_append)

/-! ## Where everything stands -/

/-- The address of the four bytes at an offset, zeros where there are none. -/
def addressAt (bytes : Bytes) (offset : Nat) : Ipv4 :=
  ⟨byteAt bytes offset, byteAt bytes (offset + 1), byteAt bytes (offset + 2), byteAt bytes (offset + 3)⟩

/-- What the 48 bytes of a record say, each member by its place among them. `readFields_eq` shows that `readFields`
comes to it. -/
def recordOf (blank : FlowRecord) (bytes : Bytes) : FlowRecord :=
  { blank with
    sourceAddress := .v4 (addressAt bytes 0)
    destinationAddress := .v4 (addressAt bytes 4)
    nextHop := if addressAt bytes 8 = .unspecified then none else some (.v4 (addressAt bytes 8))
    inputInterface := .ofNat (bytes.numberAt 12 2)
    outputInterface := .ofNat (bytes.numberAt 14 2)
    packets := .ofNat (bytes.numberAt 16 4)
    bytes := .ofNat (bytes.numberAt 20 4)
    sourcePort := .ofNat (bytes.numberAt 32 2)
    destinationPort := .ofNat (bytes.numberAt 34 2)
    tcpFlags := .ofNat (bytes.numberAt 37 1)
    protocol := .ofNat (bytes.numberAt 38 1)
    sourceAs := .ofNat (bytes.numberAt 40 2)
    destinationAs := .ofNat (bytes.numberAt 42 2)
    sourceMask := .ofNat (bytes.numberAt 44 1)
    destinationMask := .ofNat (bytes.numberAt 45 1)
    etherType := .ipv4 }

/-- The sampling rate: what the last word of the header says apart from its upper two bits, and one for zero. -/
def rateOf (payload : Bytes) : UInt64 :=
  let interval := payload.numberAt 22 2 % 16384
  if interval = 0 then 1 else .ofNat interval

/-- What is known of every record of a datagram before it is read: its exporter and time, and the `rateOf` the
datagram. -/
def blankOf (exporter : IpAddress) (timeReceived : UInt64) (payload : Bytes) : FlowRecord :=
  { FlowRecord.blank exporter timeReceived with samplingRate := rateOf payload }

/-- The record behind the header and `k` other records, by `recordOf` at its place. -/
def recordAt (exporter : IpAddress) (timeReceived : UInt64) (payload : Bytes) (k : Nat) : FlowRecord :=
  recordOf (blankOf exporter timeReceived payload) ((payload.drop (headerLength + recordLength * k)).take recordLength)

/-! ## Reading goes by the places -/

theorem addressAt_drop (bytes : Bytes) (offset : Nat) : addressAt (bytes.drop offset) 0 = addressAt bytes offset := by
  simp [addressAt, byteAt, List.getElem?_drop]

theorem ofBytes?_take {bytes : Bytes} (enough : 4 ≤ bytes.length) :
    Ipv4.ofBytes? (bytes.take 4) = some (addressAt bytes 0) := by
  rcases bytes with _ | ⟨a, _ | ⟨b, _ | ⟨c, _ | ⟨d, rest⟩⟩⟩⟩
  case cons.cons.cons.cons => rfl
  all_goals simp at enough

theorem readAddress_at {bytes : Bytes} {offset : Nat} (inside : offset + 4 ≤ bytes.length) :
    readAddress (bytes.drop offset) = .ok (addressAt bytes offset, bytes.drop (offset + 4)) := by
  have four : 4 ≤ (bytes.drop offset).length := by
    rw [List.length_drop]
    omega
  unfold readAddress
  rw [Reader.bind_ok (Reader.take_at .v5Record inside), ofBytes?_take four, addressAt_drop]
  rfl

/-- The last two bytes of a record are padding, so `readFields` does not read them. -/
theorem readFields_eq (blank : FlowRecord) {bytes : Bytes} (enough : 46 ≤ bytes.length) :
    readFields blank bytes = .ok (recordOf blank bytes, bytes.drop 46) := by
  have address : ∀ offset, offset + 4 ≤ 46 →
      readAddress (bytes.drop offset) = .ok (addressAt bytes offset, bytes.drop (offset + 4)) :=
    fun offset inside => readAddress_at (Nat.le_trans inside enough)
  have byte : ∀ offset, offset + 1 ≤ 46 →
      Reader.u8 .v5Record (bytes.drop offset) = .ok (.ofNat (bytes.numberAt offset 1), bytes.drop (offset + 1)) :=
    fun offset inside => Reader.number_at _ _ (Nat.le_trans inside enough)
  have word : ∀ offset, offset + 2 ≤ 46 →
      Reader.u16 .v5Record (bytes.drop offset) = .ok (.ofNat (bytes.numberAt offset 2), bytes.drop (offset + 2)) :=
    fun offset inside => Reader.number_at _ _ (Nat.le_trans inside enough)
  have long : ∀ offset, offset + 4 ≤ 46 →
      Reader.u32 .v5Record (bytes.drop offset) = .ok (.ofNat (bytes.numberAt offset 4), bytes.drop (offset + 4)) :=
    fun offset inside => Reader.number_at _ _ (Nat.le_trans inside enough)
  have passed : ∀ offset width, offset + width ≤ 46 →
      Reader.skip .v5Record width (bytes.drop offset) = .ok ((), bytes.drop (offset + width)) :=
    fun offset width inside => Reader.number_at _ _ (Nat.le_trans inside enough)
  -- A number of few bytes is itself in the wider member that it goes to.
  have extended : ∀ offset, (UInt16.ofNat (bytes.numberAt offset 2)).toUInt32 = .ofNat (bytes.numberAt offset 2) :=
    fun offset => UInt16.toUInt32_ofNat' (bytes.numberAt_lt offset 2)
  have extended' : ∀ offset, (UInt32.ofNat (bytes.numberAt offset 4)).toUInt64 = .ofNat (bytes.numberAt offset 4) :=
    fun offset => UInt32.toUInt64_ofNat' (bytes.numberAt_lt offset 4)
  have fields : readFields blank (bytes.drop 0) = .ok (recordOf blank bytes, bytes.drop 46) := by
    unfold readFields
    rw [Reader.bind_ok (address 0 (by decide)), Reader.bind_ok (address 4 (by decide)),
      Reader.bind_ok (address 8 (by decide)), Reader.bind_ok (word 12 (by decide)),
      Reader.bind_ok (word 14 (by decide)), Reader.bind_ok (long 16 (by decide)),
      Reader.bind_ok (long 20 (by decide)), Reader.bind_ok (passed 24 8 (by decide)),
      Reader.bind_ok (word 32 (by decide)), Reader.bind_ok (word 34 (by decide)),
      Reader.bind_ok (passed 36 1 (by decide)), Reader.bind_ok (byte 37 (by decide)),
      Reader.bind_ok (byte 38 (by decide)), Reader.bind_ok (passed 39 1 (by decide)),
      Reader.bind_ok (word 40 (by decide)), Reader.bind_ok (word 42 (by decide)),
      Reader.bind_ok (byte 44 (by decide)), Reader.bind_ok (byte 45 (by decide))]
    simp only [extended, extended']
    rfl
  exact fields

theorem decodeRecord_eq (blank : FlowRecord) {bytes : Bytes} (whole : bytes.length = recordLength) :
    decodeRecord blank bytes = ⟨[recordOf blank bytes], [], 0⟩ := by
  have enough : 46 ≤ bytes.length := by
    rw [whole]
    decide
  have fields : (readFields blank).run bytes = .ok (recordOf blank bytes, bytes.drop 46) := readFields_eq blank enough
  unfold decodeRecord
  rw [fields]

/-! ## The header -/

theorem Header.readFields_eq {front : Bytes} (enough : headerLength ≤ front.length) :
    readFields front
      = .ok (⟨.ofNat (front.numberAt 2 2), .ofNat (front.numberAt 22 2) &&& 0x3fff⟩, front.drop headerLength) := by
  have word : ∀ offset, offset + 2 ≤ headerLength →
      Reader.u16 .v5Header (front.drop offset) = .ok (.ofNat (front.numberAt offset 2), front.drop (offset + 2)) :=
    fun offset inside => Reader.number_at _ _ (Nat.le_trans inside enough)
  have passed : Reader.skip .v5Header 18 (front.drop 4) = .ok ((), front.drop 22) :=
    Reader.number_at _ _ (Nat.le_trans (by decide) enough)
  show readFields (front.drop 0) = _
  unfold readFields
  rw [Reader.bind_ok (word 0 (by decide)), Reader.bind_ok (word 2 (by decide)), Reader.bind_ok passed,
    Reader.bind_ok (word 22 (by decide))]
  rfl

/-- The header is cut off before it is read, which changes no number in it: `Header.read` has the numbers at their
places in the payload. -/
theorem Header.read_eq {payload : Bytes} (enough : headerLength ≤ payload.length) :
    Header.read payload
      = .ok (⟨.ofNat (payload.numberAt 2 2), .ofNat (payload.numberAt 22 2) &&& 0x3fff⟩, payload.drop headerLength) := by
  have fields : readFields.run (payload.take headerLength) = .ok (_, _) :=
    readFields_eq (Nat.le_of_eq (List.length_take_of_le enough).symm)
  unfold Header.read
  rw [Reader.bind_ok (Reader.take_of_le _ enough), fields, Bytes.numberAt_take payload (by decide),
    Bytes.numberAt_take payload (by decide)]
  rfl

theorem Header.samplingRate_eq (count : UInt16) (payload : Bytes) :
    Header.samplingRate ⟨count, .ofNat (payload.numberAt 22 2) &&& 0x3fff⟩ = rateOf payload := by
  have below : payload.numberAt 22 2 % 16384 < UInt16.size := by
    have := Nat.mod_lt (payload.numberAt 22 2) (by decide : 0 < 16384)
    exact Nat.lt_of_lt_of_le this (by decide)
  have masked : UInt16.ofNat (payload.numberAt 22 2) &&& 0x3fff = .ofNat (payload.numberAt 22 2 % 16384) := by
    have low : payload.numberAt 22 2 &&& 2 ^ 14 - 1 = _ := Nat.and_two_pow_sub_one_eq_mod (payload.numberAt 22 2) 14
    exact (UInt16.ofNat_and _ _).symm.trans (congrArg UInt16.ofNat low)
  have zero : UInt16.ofNat (payload.numberAt 22 2 % 16384) = 0 ↔ payload.numberAt 22 2 % 16384 = 0 := by
    rw [← UInt16.toNat_inj, UInt16.toNat_ofNat_of_lt' below]
    rfl
  unfold samplingRate rateOf
  simp only [masked, zero, UInt16.toUInt64_ofNat' below]

/-! ## Datagrams -/

variable (exporter : IpAddress) (timeReceived : UInt64)

/-- Each part that a record is read of is one record, its `recordOf`. -/
theorem decode_eq {payload : Bytes} (enough : headerLength ≤ payload.length) :
    let parts := Reader.upTo (payload.numberAt 2 2) (Reader.take .v5Record recordLength) (payload.drop headerLength)
    Version5.decode exporter timeReceived payload
      = ⟨parts.1.map (recordOf (blankOf exporter timeReceived payload)), parts.2.toList, 0⟩ := by
  intro parts
  have count : (UInt16.ofNat (payload.numberAt 2 2)).toNat = payload.numberAt 2 2 :=
    UInt16.toNat_ofNat_of_lt' (payload.numberAt_lt 2 2)
  have read : Header.read.run payload = .ok (_, _) := Header.read_eq enough
  have whole : ∀ part ∈ parts.1, part.length = recordLength := by
    intro part mem
    rw [show parts = _ from Reader.upTo_take .v5Record (by decide) _ _] at mem
    obtain ⟨k, among, rfl⟩ := List.mem_map.1 mem
    have present := Nat.lt_of_lt_of_le (List.mem_range.1 among) (Nat.min_le_right _ _)
    refine List.length_take_of_le ?_
    rw [List.length_drop]
    unfold recordLength at present ⊢
    omega
  have each : parts.1.map (decodeRecord (blankOf exporter timeReceived payload))
      = parts.1.map fun part => ⟨[recordOf (blankOf exporter timeReceived payload) part], [], 0⟩ :=
    List.map_congr_left fun part mem => decodeRecord_eq _ (whole part mem)
  unfold Version5.decode
  rw [read]
  simp only [Header.samplingRate_eq, count]
  show (parts.1.map (decodeRecord (blankOf exporter timeReceived payload))).foldr (· ++ ·) (.ofErrors parts.2.toList) = _
  rw [each, Decoded.foldr_map_record, Decoded.ofErrors, List.append_nil]

theorem netflow_decode_eq {payload : Bytes} (enough : headerLength ≤ payload.length)
    (version : payload.numberAt 0 2 = 5) (store : Store) :
    Netflow.decode exporter timeReceived payload store = (Version5.decode exporter timeReceived payload, store) :=
  decode_of_number (Nat.le_trans (by decide) enough) (show _ = (5 : UInt16).toNat from version) exporter timeReceived store

/-- How many records there are bytes for behind the header, whatever it promises. -/
def room (payload : Bytes) : Nat := (payload.length - headerLength) / recordLength

/-- The records that were promised and are there, each at its `recordAt`, and one error if some are not. -/
theorem decode_eq_range {payload : Bytes} (enough : headerLength ≤ payload.length) :
    Version5.decode exporter timeReceived payload
      = ⟨(List.range (min (payload.numberAt 2 2) (room payload))).map (recordAt exporter timeReceived payload),
        if payload.numberAt 2 2 ≤ room payload then []
        else [.truncated .v5Record recordLength ((payload.length - headerLength) % recordLength)], 0⟩ := by
  rw [decode_eq exporter timeReceived enough, Reader.upTo_take .v5Record (by decide), List.length_drop, List.map_map]
  simp only [List.drop_drop]
  refine Decoded.ext rfl ?_ rfl
  unfold room
  split <;> rfl

/-- The records that were promised are all there, as far as there is `room`, so nothing behind them is looked at. -/
theorem decode_append {payload : Bytes} (enough : headerLength ≤ payload.length)
    (all : payload.numberAt 2 2 ≤ room payload) (junk : Bytes) :
    Version5.decode exporter timeReceived (payload ++ junk) = Version5.decode exporter timeReceived payload := by
  have longer : payload.length ≤ (payload ++ junk).length := List.length_append ▸ Nat.le_add_right _ _
  have more : room payload ≤ room (payload ++ junk) := Nat.div_le_div_right (Nat.sub_le_sub_right longer _)
  have declared : Bytes.numberAt (payload ++ junk) 2 2 = payload.numberAt 2 2 :=
    Bytes.numberAt_append _ (Nat.le_trans (by decide) enough)
  have known : blankOf exporter timeReceived (payload ++ junk) = blankOf exporter timeReceived payload := by
    rw [blankOf, rateOf, Bytes.numberAt_append _ (Nat.le_trans (by decide) enough)]
    rfl
  have same : ∀ k ∈ List.range (payload.numberAt 2 2),
      recordAt exporter timeReceived (payload ++ junk) k = recordAt exporter timeReceived payload k := by
    intro k among
    have within := Nat.lt_of_lt_of_le (List.mem_range.1 among) all
    unfold room recordLength headerLength at within
    rw [recordAt, known, part_append junk (by unfold recordLength headerLength; omega)]
    rfl
  rw [decode_eq_range exporter timeReceived enough, decode_eq_range exporter timeReceived (Nat.le_trans enough longer),
    declared, if_pos all, if_pos (Nat.le_trans all more), Nat.min_eq_left all, Nat.min_eq_left (Nat.le_trans all more),
    List.map_congr_left same]

/-! ## Datagrams that are written -/

/-- A record with all that stands in it, of which a flow record keeps a part. -/
structure WrittenRecord where
  source : Ipv4
  destination : Ipv4
  nextHop : Ipv4
  inputInterface : UInt16
  outputInterface : UInt16
  packets : UInt32
  octets : UInt32
  first : UInt32
  last : UInt32
  sourcePort : UInt16
  destinationPort : UInt16
  padding : UInt8
  tcpFlags : UInt8
  protocol : UInt8
  service : UInt8
  sourceAs : UInt16
  destinationAs : UInt16
  sourceMask : UInt8
  destinationMask : UInt8
  lastPadding : UInt16
  deriving DecidableEq, Repr

namespace WrittenRecord

/-- A record as it stands in a datagram, where `recordOf` finds each member. -/
def encode (record : WrittenRecord) : Bytes :=
  record.source.toBytes ++ (record.destination.toBytes ++ (record.nextHop.toBytes
    ++ (Bytes.ofNat 2 record.inputInterface.toNat ++ (Bytes.ofNat 2 record.outputInterface.toNat
    ++ (Bytes.ofNat 4 record.packets.toNat ++ (Bytes.ofNat 4 record.octets.toNat
    ++ (Bytes.ofNat 4 record.first.toNat ++ (Bytes.ofNat 4 record.last.toNat
    ++ (Bytes.ofNat 2 record.sourcePort.toNat ++ (Bytes.ofNat 2 record.destinationPort.toNat
    ++ ([record.padding, record.tcpFlags, record.protocol, record.service]
    ++ (Bytes.ofNat 2 record.sourceAs.toNat ++ (Bytes.ofNat 2 record.destinationAs.toNat
    ++ ([record.sourceMask, record.destinationMask] ++ Bytes.ofNat 2 record.lastPadding.toNat))))))))))))))

/-- The flow that a record is, on top of what is known of every record. -/
def flow (blank : FlowRecord) (record : WrittenRecord) : FlowRecord :=
  { blank with
    sourceAddress := .v4 record.source
    destinationAddress := .v4 record.destination
    nextHop := if record.nextHop = .unspecified then none else some (.v4 record.nextHop)
    inputInterface := record.inputInterface.toUInt32
    outputInterface := record.outputInterface.toUInt32
    packets := record.packets.toUInt64
    bytes := record.octets.toUInt64
    sourcePort := record.sourcePort
    destinationPort := record.destinationPort
    tcpFlags := record.tcpFlags
    protocol := record.protocol
    sourceAs := record.sourceAs.toUInt32
    destinationAs := record.destinationAs.toUInt32
    sourceMask := record.sourceMask
    destinationMask := record.destinationMask
    etherType := .ipv4 }

theorem length_encode (record : WrittenRecord) : record.encode.length = recordLength := by
  simp [encode, Ipv4.toBytes, recordLength]

/-- Each member is written by `encode` where `recordOf` looks for it. -/
theorem recordOf_encode (blank : FlowRecord) (record : WrittenRecord) :
    recordOf blank record.encode = record.flow blank := by
  have byte : ∀ offset (value : UInt8), (record.encode.drop offset).take 1 = [value] →
      Bytes.numberAt record.encode offset 1 = value.toNat := by
    intro offset value there
    simp [Bytes.numberAt, there, Bytes.toNat]
  have word : ∀ offset (value : UInt16), (record.encode.drop offset).take 2 = Bytes.ofNat 2 value.toNat →
      Bytes.numberAt record.encode offset 2 = value.toNat :=
    fun _ value => Bytes.numberAt_of_written value.toNat_lt
  have long : ∀ offset (value : UInt32), (record.encode.drop offset).take 4 = Bytes.ofNat 4 value.toNat →
      Bytes.numberAt record.encode offset 4 = value.toNat :=
    fun _ value => Bytes.numberAt_of_written value.toNat_lt
  have source : addressAt record.encode 0 = record.source := rfl
  have destination : addressAt record.encode 4 = record.destination := rfl
  have nextHop : addressAt record.encode 8 = record.nextHop := rfl
  unfold recordOf flow
  rw [source, destination, nextHop, word 12 record.inputInterface rfl, word 14 record.outputInterface rfl,
    long 16 record.packets rfl, long 20 record.octets rfl, word 32 record.sourcePort rfl,
    word 34 record.destinationPort rfl, byte 37 record.tcpFlags rfl, byte 38 record.protocol rfl,
    word 40 record.sourceAs rfl, word 42 record.destinationAs rfl, byte 44 record.sourceMask rfl,
    byte 45 record.destinationMask rfl]
  simp only [UInt8.ofNat_toNat, UInt16.ofNat_toNat, UInt32.ofNat_uInt16ToNat, UInt64.ofNat_uInt32ToNat]

end WrittenRecord

/-- A header with all that stands in it, but for the number of records, which `message` adds. -/
structure WrittenHeader where
  uptime : UInt32
  seconds : UInt32
  nanoseconds : UInt32
  sequence : UInt32
  engineType : UInt8
  engineId : UInt8
  samplingMode : Fin 4
  /-- One packet in how many was looked at, zero where all were. -/
  samplingInterval : Fin 16384
  deriving DecidableEq, Repr

namespace WrittenHeader

/-- A header as it stands in a datagram. The mode is in the upper two bits of the last word. -/
def encode (header : WrittenHeader) (count : Nat) : Bytes :=
  Bytes.ofNat 2 5 ++ (Bytes.ofNat 2 count
    ++ (Bytes.ofNat 4 header.uptime.toNat ++ (Bytes.ofNat 4 header.seconds.toNat
    ++ (Bytes.ofNat 4 header.nanoseconds.toNat ++ (Bytes.ofNat 4 header.sequence.toNat
    ++ ([header.engineType, header.engineId]
    ++ Bytes.ofNat 2 (header.samplingMode * 16384 + header.samplingInterval)))))))

/-- A header with the right count and its records, and anything behind them. -/
def message (header : WrittenHeader) (records : List WrittenRecord) (junk : Bytes) : Bytes :=
  header.encode records.length ++ (records.flatMap WrittenRecord.encode ++ junk)

/-- What the header tells of every record, as `blankOf` finds it in the datagram. -/
def blank (header : WrittenHeader) (exporter : IpAddress) (timeReceived : UInt64) : FlowRecord :=
  { FlowRecord.blank exporter timeReceived with
    samplingRate := if header.samplingInterval = 0 then 1 else .ofNat header.samplingInterval }

theorem length_encode (header : WrittenHeader) (count : Nat) : (header.encode count).length = headerLength := by
  simp [encode, headerLength]

variable {header : WrittenHeader} {records : List WrittenRecord} {junk : Bytes}

theorem numberAt_message {offset width : Nat} (inside : offset + width ≤ headerLength) :
    (header.message records junk).numberAt offset width
      = Bytes.numberAt (header.encode records.length) offset width :=
  Bytes.numberAt_append _ (header.length_encode _ ▸ inside)

theorem headerLength_le_message : headerLength ≤ (header.message records junk).length := by
  rw [message, List.length_append, header.length_encode]
  exact Nat.le_add_right _ _

theorem blankOf_message (exporter : IpAddress) (timeReceived : UInt64) :
    blankOf exporter timeReceived (header.message records junk) = header.blank exporter timeReceived := by
  have word : Bytes.numberAt (header.encode records.length) 22 2
      = header.samplingMode * 16384 + header.samplingInterval :=
    Bytes.numberAt_of_written (show _ < 65536 by omega) rfl
  have interval : (header.message records junk).numberAt 22 2 % 16384 = header.samplingInterval := by
    rw [numberAt_message (by decide), word]
    omega
  have zero : header.samplingInterval = 0 ↔ header.samplingInterval.val = 0 := Fin.ext_iff
  unfold blankOf rateOf blank
  simp only [interval, zero]

/-- A datagram whose count is right comes to the `WrittenRecord.flow` of each of its records. -/
theorem decode_message (fits : records.length < 65536) (exporter : IpAddress) (timeReceived : UInt64) :
    Version5.decode exporter timeReceived (header.message records junk)
      = ⟨records.map (WrittenRecord.flow (header.blank exporter timeReceived)), [], 0⟩ := by
  have count : (header.message records junk).numberAt 2 2 = records.length :=
    (numberAt_message (by decide)).trans (Bytes.numberAt_of_written fits rfl)
  have behind : (header.message records junk).drop headerLength = records.flatMap WrittenRecord.encode ++ junk :=
    List.drop_left' (header.length_encode _)
  have read : Reader.times records.length (Reader.take .v5Record recordLength)
      (records.flatMap WrittenRecord.encode ++ junk) = .ok (records.map WrittenRecord.encode, junk) :=
    Reader.times_meaning WrittenRecord.encode (fun record _ rest => Reader.take_append record.length_encode rest) junk
  have each : (records.map WrittenRecord.encode).map (recordOf (header.blank exporter timeReceived))
      = records.map (WrittenRecord.flow (header.blank exporter timeReceived)) := by
    rw [List.map_map]
    exact List.map_congr_left fun record _ => record.recordOf_encode _
  rw [decode_eq exporter timeReceived headerLength_le_message, count, behind, Reader.upTo_of_times_ok read, blankOf_message, each]
  rfl

end WrittenHeader

/-- A datagram of version 5 gives the records that its header promises, as far as there are bytes for them, and every
member of a record is the number at its place (`recordAt`). If some are missing there is one error, that counts the
bytes left over; if none is, nothing behind the records is looked at. The store has no part in it. A datagram that was
written with the right count (`WrittenHeader.message`) is read back. -/
theorem decode_as_laid_out (store : Store) :
    (∀ payload : Bytes, headerLength ≤ payload.length → payload.numberAt 0 2 = 5 →
      let declared := payload.numberAt 2 2
      let left := (payload.length - headerLength) % recordLength
      Netflow.decode exporter timeReceived payload store
          = (⟨(List.range (min declared (room payload))).map (recordAt exporter timeReceived payload),
              if declared ≤ room payload then [] else [.truncated .v5Record recordLength left], 0⟩, store)
        ∧ (declared ≤ room payload → ∀ junk, Netflow.decode exporter timeReceived (payload ++ junk) store
            = Netflow.decode exporter timeReceived payload store))
    ∧ ∀ (header : WrittenHeader) (records : List WrittenRecord) (junk : Bytes), records.length < 65536 →
        Netflow.decode exporter timeReceived (header.message records junk) store
          = (⟨records.map (WrittenRecord.flow (header.blank exporter timeReceived)), [], 0⟩, store) := by
  constructor
  · intro payload enough version declared left
    have own := netflow_decode_eq exporter timeReceived enough version store
    refine ⟨own.trans (Prod.ext (decode_eq_range exporter timeReceived enough) rfl), fun all junk => ?_⟩
    have longer : headerLength ≤ (payload ++ junk).length := by
      rw [List.length_append]
      exact Nat.le_add_right_of_le enough
    have stays : Bytes.numberAt (payload ++ junk) 0 2 = 5 :=
      (Bytes.numberAt_append junk (Nat.le_trans (by decide) enough)).trans version
    rw [own, netflow_decode_eq exporter timeReceived longer stays, decode_append exporter timeReceived enough all]
  · intro header records junk fits
    have version : (header.message records junk).numberAt 0 2 = 5 :=
      (WrittenHeader.numberAt_message (by decide)).trans (Bytes.numberAt_of_written (by decide) rfl)
    rw [netflow_decode_eq exporter timeReceived WrittenHeader.headerLength_le_message version,
      WrittenHeader.decode_message fits]

/-- Three records are promised, and two are there with ten bytes of a third. The first has no next hop, and the counters
of the second are as large as they can be. Then the same two in a datagram that promises no more, with a byte behind. -/
theorem decode_as_laid_out_one_missing :
    let exporter : IpAddress := .v4 ⟨192, 0, 2, 1⟩
    let header : WrittenHeader := ⟨1, 2, 3, 4, 0, 0, 1, 100⟩
    let first : WrittenRecord := ⟨⟨10, 0, 0, 1⟩, ⟨10, 0, 0, 2⟩, ⟨0, 0, 0, 0⟩, 1, 2, 10, 1500, 5, 6, 80, 443, 7, 0x12, 6, 8,
      64500, 64501, 24, 16, 9⟩
    let second : WrittenRecord := { first with nextHop := ⟨10, 0, 0, 9⟩, packets := 0xffffffff, octets := 0xffffffff }
    let payload := header.encode 3 ++ ([first, second].flatMap WrittenRecord.encode ++ List.replicate 10 255)
    let store := (∅ : Store).setRate ⟨exporter, 0, 0⟩ 512
    let flows := [first, second].map (WrittenRecord.flow (header.blank exporter 60))
    headerLength ≤ payload.length ∧ payload.numberAt 0 2 = 5
      ∧ Netflow.decode exporter 60 payload store
          = (⟨(List.range 2).map (recordAt exporter 60 payload), [.truncated .v5Record 48 10], 0⟩, store)
      ∧ (List.range 2).map (recordAt exporter 60 payload) = flows
      ∧ flows.map FlowRecord.nextHop = [none, some (.v4 ⟨10, 0, 0, 9⟩)]
      ∧ flows.map FlowRecord.packets = [10, 0xffffffff] ∧ flows.map FlowRecord.samplingRate = [100, 100]
      ∧ Netflow.decode exporter 60 (header.message [first, second] [9]) store = (⟨flows, [], 0⟩, store) := by
  intro exporter header first second payload store flows
  obtain ⟨laidOut, written⟩ := decode_as_laid_out exporter 60 store
  have enough : headerLength ≤ payload.length := by decide +kernel
  have version : payload.numberAt 0 2 = 5 := by decide +kernel
  have available : min (payload.numberAt 2 2) (room payload) = 2 := by decide +kernel
  have missing : ¬ payload.numberAt 2 2 ≤ room payload := by decide +kernel
  have left : (payload.length - headerLength) % recordLength = 10 := by decide +kernel
  have decoded := (laidOut payload enough version).1
  rw [available, if_neg missing, left] at decoded
  exact ⟨enough, version, decoded, by decide +kernel, by decide +kernel, by decide +kernel, by decide +kernel,
    written header [first, second] [9] (by decide)⟩

end Netflow.Version5

end FlowCollector
