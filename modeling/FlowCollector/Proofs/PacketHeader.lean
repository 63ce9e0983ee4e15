import FlowCollector.PacketHeader

/-!
# Packet headers cut off

A header is read from the bytes at its own places and from no others, so bytes behind it change nothing. What is read
from the front of a packet is therefore what is read from the whole of it, as far as the front goes. It is not enough
for this that each reader is like that: where a header ends is read from the header itself, and the next one starts
there.
-/

set_option autoImplicit false

namespace FlowCollector

namespace PacketHeader

/-! ## Places -/

section Places

variable {front : Bytes} (rest : Bytes) {offset count : Nat}

theorem byteAt_append (inside : offset < front.length) : byteAt (front ++ rest) offset = byteAt front offset := by
  simp [byteAt, List.getElem?_append_left inside]

theorem part_append (inside : offset + count ≤ front.length) :
    ((front ++ rest).drop offset).take count = (front.drop offset).take count := by
  rw [List.drop_append_of_le_length (by omega), List.take_append_of_le_length (by rw [List.length_drop]; omega)]

theorem wordAt_append (inside : offset + 2 ≤ front.length) : wordAt (front ++ rest) offset = wordAt front offset := by
  rw [wordAt, wordAt, part_append rest inside]

end Places

/-! ## What a header is read to -/

theorem ipv4?_eq_some_iff {packet : Bytes} {header : Internet} :
    ipv4? packet = some header ↔
      20 ≤ packet.length ∧ (byteAt packet 0).toNat / 16 = 4
        ∧ 20 ≤ wordsToBytes ((byteAt packet 0).toNat % 16)
        ∧ wordsToBytes ((byteAt packet 0).toNat % 16) ≤ packet.length
        ∧ IpAddress.ofV4Bytes? ((packet.drop 12).take 4) = some header.source
        ∧ IpAddress.ofV4Bytes? ((packet.drop 16).take 4) = some header.destination
        ∧ header.protocol = byteAt packet 9
        ∧ header.payload = packet.drop (wordsToBytes ((byteAt packet 0).toNat % 16)) := by
  unfold ipv4?
  constructor
  · intro read
    split at read
    · cases read
    · rename_i long
      dsimp only at read
      split at read
      · rename_i own
        simp only [Option.bind_eq_bind, Option.bind_eq_some_iff] at read
        obtain ⟨source, sourced, destination, addressed, made⟩ := read
        obtain rfl := Option.some.inj made
        exact ⟨Nat.not_lt.1 long, own.1, own.2.1, own.2.2, sourced, addressed, rfl, rfl⟩
      · cases read
  · rintro ⟨long, version, least, whole, sourced, addressed, protocol, payload⟩
    rw [if_neg (Nat.not_lt.2 long)]
    dsimp only
    rw [if_pos ⟨version, least, whole⟩, sourced, addressed, ← protocol, ← payload]
    rfl

theorem ipv6?_eq_some_iff {packet : Bytes} {header : Internet} :
    ipv6? packet = some header ↔
      40 ≤ packet.length ∧ (byteAt packet 0).toNat / 16 = 6
        ∧ IpAddress.ofV6Bytes? ((packet.drop 8).take 16) = some header.source
        ∧ IpAddress.ofV6Bytes? ((packet.drop 24).take 16) = some header.destination
        ∧ header.protocol = byteAt packet 6
        ∧ header.payload = packet.drop 40 := by
  unfold ipv6?
  constructor
  · intro read
    split at read
    · cases read
    · rename_i long
      split at read
      · rename_i version
        simp only [Option.bind_eq_bind, Option.bind_eq_some_iff] at read
        obtain ⟨source, sourced, destination, addressed, made⟩ := read
        obtain rfl := Option.some.inj made
        exact ⟨Nat.not_lt.1 long, version, sourced, addressed, rfl, rfl⟩
      · cases read
  · rintro ⟨long, version, sourced, addressed, protocol, payload⟩
    rw [if_neg (Nat.not_lt.2 long), if_pos version, sourced, addressed, ← protocol, ← payload]
    rfl

theorem flagByte_flagsIn (byte : UInt8) : flagByte (flagsIn byte) = byte := by
  have each : ∀ bits : BitVec 8, flagByte (flagsIn ⟨bits⟩) = ⟨bits⟩ := by decide +kernel
  exact each byte.toBitVec

theorem tcp?_eq_some_iff {segment : Bytes} {header : Transport} :
    tcp? segment = some header ↔
      20 ≤ segment.length ∧ 20 ≤ wordsToBytes ((byteAt segment 12).toNat / 16)
        ∧ wordsToBytes ((byteAt segment 12).toNat / 16) ≤ segment.length
        ∧ header = ⟨wordAt segment 0, wordAt segment 2, some (byteAt segment 13)⟩ := by
  unfold tcp?
  rw [flagByte_flagsIn]
  constructor
  · intro read
    split at read
    · cases read
    · rename_i long
      dsimp only at read
      split at read
      · rename_i own
        exact ⟨Nat.not_lt.1 long, own.1, own.2, (Option.some.inj read).symm⟩
      · cases read
  · rintro ⟨long, least, whole, rfl⟩
    rw [if_neg (Nat.not_lt.2 long)]
    exact if_pos ⟨least, whole⟩

theorem udp?_eq_some_iff {segment : Bytes} {header : Transport} :
    udp? segment = some header ↔
      8 ≤ segment.length ∧ header = ⟨wordAt segment 0, wordAt segment 2, none⟩ := by
  unfold udp?
  split
  · rename_i short
    simp only [reduceCtorEq, false_iff, not_and]
    omega
  · rename_i long
    rw [Option.some.injEq, eq_comm]
    exact ⟨fun made => ⟨Nat.not_lt.1 long, made⟩, And.right⟩

/-! ## Bytes behind a header -/

section Behind

variable {front : Bytes}

theorem ipv4?_append {header : Internet} (read : ipv4? front = some header) (rest : Bytes) :
    ipv4? (front ++ rest) = some { header with payload := header.payload ++ rest } := by
  obtain ⟨long, version, least, whole, sourced, addressed, protocol, payload⟩ := ipv4?_eq_some_iff.1 read
  have first : byteAt (front ++ rest) 0 = byteAt front 0 := byteAt_append rest (by omega)
  rw [ipv4?_eq_some_iff, first, byteAt_append rest (by omega), part_append rest (by omega), part_append rest (by omega)]
  refine ⟨?_, version, least, ?_, sourced, addressed, protocol, ?_⟩
  · rw [List.length_append]
    omega
  · rw [List.length_append]
    omega
  · rw [List.drop_append_of_le_length whole, payload]

theorem ipv6?_append {header : Internet} (read : ipv6? front = some header) (rest : Bytes) :
    ipv6? (front ++ rest) = some { header with payload := header.payload ++ rest } := by
  obtain ⟨long, version, sourced, addressed, protocol, payload⟩ := ipv6?_eq_some_iff.1 read
  have first : byteAt (front ++ rest) 0 = byteAt front 0 := byteAt_append rest (by omega)
  rw [ipv6?_eq_some_iff, first, byteAt_append rest (by omega), part_append rest (by omega), part_append rest (by omega)]
  refine ⟨?_, version, sourced, addressed, protocol, ?_⟩
  · rw [List.length_append]
    omega
  · rw [List.drop_append_of_le_length long, payload]

theorem internet?_append {etherType : EtherType} {header : Internet} (read : internet? etherType front = some header)
    (rest : Bytes) : internet? etherType (front ++ rest) = some { header with payload := header.payload ++ rest } := by
  unfold internet? at read ⊢
  split at read
  · rename_i v4
    rw [if_pos v4]
    exact ipv4?_append read rest
  · rename_i other
    rw [if_neg other]
    split at read
    · rename_i v6
      rw [if_pos v6]
      exact ipv6?_append read rest
    · cases read

theorem tcp?_append {header : Transport} (read : tcp? front = some header) (rest : Bytes) :
    tcp? (front ++ rest) = some header := by
  obtain ⟨long, least, whole, made⟩ := tcp?_eq_some_iff.1 read
  rw [tcp?_eq_some_iff, byteAt_append rest (by omega), byteAt_append rest (by omega), wordAt_append rest (by omega),
    wordAt_append rest (by omega), List.length_append]
  exact ⟨by omega, least, by omega, made⟩

theorem udp?_append {header : Transport} (read : udp? front = some header) (rest : Bytes) :
    udp? (front ++ rest) = some header := by
  obtain ⟨long, made⟩ := udp?_eq_some_iff.1 read
  rw [udp?_eq_some_iff, wordAt_append rest (by omega), wordAt_append rest (by omega), List.length_append]
  exact ⟨by omega, made⟩

theorem transport?_append {protocol : UInt8} {header : Transport} (read : transport? protocol front = some header)
    (rest : Bytes) : transport? protocol (front ++ rest) = some header := by
  unfold transport? at read ⊢
  split at read
  · rename_i own
    rw [if_pos own]
    exact tcp?_append read rest
  · rename_i other
    rw [if_neg other]
    split at read
    · rename_i own
      rw [if_pos own]
      exact udp?_append read rest
    · cases read

theorem untagged?_append {etherType inner : EtherType} {packet : Bytes}
    (read : untagged? etherType front = some (inner, packet)) (rest : Bytes) :
    untagged? etherType (front ++ rest) = some (inner, packet ++ rest) := by
  fun_induction untagged? etherType front with
  | case1 etherType tag first second high low behind ih =>
    have more := ih read
    unfold untagged?
    rw [if_pos tag]
    exact more
  | case2 => cases read
  | case3 etherType bytes plain =>
    obtain ⟨rfl, rfl⟩ := Prod.mk.inj (Option.some.inj read)
    unfold untagged?
    rw [if_neg plain]

theorem ethernet?_append {etherType : EtherType} {packet : Bytes} (read : ethernet? front = some (etherType, packet))
    (rest : Bytes) : ethernet? (front ++ rest) = some (etherType, packet ++ rest) := by
  unfold ethernet? at read ⊢
  split at read
  · cases read
  · rename_i long
    rw [if_neg (by rw [List.length_append]; omega), wordAt_append rest (by omega),
      List.drop_append_of_le_length (by omega)]
    exact untagged?_append read rest

end Behind

/-! ## Tags -/

/-- A tag of a virtual network, inner or outer, with the two bytes that say which network. Its ether type is one that
`isTag` knows. -/
structure Tag where
  isProvider : Bool
  high : UInt8
  low : UInt8
  deriving DecidableEq, Repr

namespace Tag

def etherType (tag : Tag) : EtherType := if tag.isProvider then .providerVlan else .vlan

/-- A tag stands in front of the ether type of what it tags, so its own ether type is where that would be. -/
def encode (tag : Tag) : Bytes := Bytes.ofNat 2 tag.etherType.toNat ++ [tag.high, tag.low]

theorem isTag_etherType (tag : Tag) : isTag tag.etherType = true := by
  unfold etherType
  split <;> rfl

end Tag

/-- A frame with tags behind the two addresses, which take twelve bytes. Without tags it is the frame itself. -/
def tagged (tags : List Tag) (frame : Bytes) : Bytes :=
  frame.take 12 ++ (tags.flatMap Tag.encode ++ frame.drop 12)

theorem untagged?_tag (tag : Tag) {inner : Bytes} (typed : 2 ≤ inner.length) :
    untagged? (wordAt (tag.encode ++ inner) 0) ((tag.encode ++ inner).drop 2)
      = untagged? (wordAt inner 0) (inner.drop 2) := by
  have own : wordAt (tag.encode ++ inner) 0 = tag.etherType := Bytes.ofNat_toNat_ofNat tag.etherType
  rw [own]
  rcases inner with _ | ⟨high, _ | ⟨low, rest⟩⟩
  · simp at typed
  · simp at typed
  · -- Behind the tag stands the ether type of what it tags, and that is where to go on.
    show untagged? tag.etherType (tag.high :: tag.low :: high :: low :: rest) = _
    rw [untagged?, if_pos tag.isTag_etherType]
    rfl

theorem untagged?_tags (tags : List Tag) {inner : Bytes} (typed : 2 ≤ inner.length) :
    untagged? (wordAt (tags.flatMap Tag.encode ++ inner) 0) ((tags.flatMap Tag.encode ++ inner).drop 2)
      = untagged? (wordAt inner 0) (inner.drop 2) := by
  induction tags with
  | nil => rfl
  | cons tag others ih =>
    have longer : 2 ≤ (others.flatMap Tag.encode ++ inner).length := by
      rw [List.length_append]
      omega
    rw [List.flatMap_cons, List.append_assoc, untagged?_tag tag longer, ih]

theorem ethernet?_of_long {frame : Bytes} (long : 14 ≤ frame.length) :
    ethernet? frame = untagged? (wordAt (frame.drop 12) 0) ((frame.drop 12).drop 2) := by
  rw [ethernet?, if_neg (Nat.not_lt.2 long), List.drop_drop, wordAt, wordAt, List.drop_drop]

/-- A frame is taken apart by `ethernet?` as if it had no tags, whatever their number. -/
theorem ethernet?_tagged (tags : List Tag) {frame : Bytes} (long : 14 ≤ frame.length) :
    ethernet? (tagged tags frame) = ethernet? frame := by
  have addresses : (frame.take 12).length = 12 := List.length_take_of_le (by omega)
  have behind : (tagged tags frame).drop 12 = tags.flatMap Tag.encode ++ frame.drop 12 := List.drop_left' addresses
  have longer : 14 ≤ (tagged tags frame).length := by
    simp only [tagged, List.length_append, List.length_drop, addresses]
    omega
  rw [ethernet?_of_long longer, behind, ethernet?_of_long long]
  exact untagged?_tags tags (by rw [List.length_drop]; omega)

end PacketHeader

/-! ## What a record says after headers that were cut off -/

namespace FlowRecord

open PacketHeader

/-- Two records that are the same apart from what packet headers say, the members that `withFrame` may fill in. -/
def SameApart (record other : FlowRecord) : Prop :=
  other = { record with
    etherType := other.etherType
    sourceAddress := other.sourceAddress
    destinationAddress := other.destinationAddress
    protocol := other.protocol
    sourcePort := other.sourcePort
    destinationPort := other.destinationPort
    tcpFlags := other.tcpFlags }

theorem sameApart_withPacket (record : FlowRecord) (etherType : EtherType) (packet : Bytes) :
    record.SameApart (record.withPacket etherType packet) := by
  unfold withPacket
  split
  · rfl
  · dsimp only
    split <;> rfl

theorem sameApart_withFrame (record : FlowRecord) (frame : Bytes) : record.SameApart (record.withFrame frame) := by
  unfold withFrame
  split
  · rfl
  · rename_i etherType packet _
    exact (sameApart_withPacket { record with etherType } etherType packet).trans rfl

/-- What a record says after the front of a packet, beside what it says after more of it: of each thing that headers
say it knows as much, or as little as at the start. Everything else is the same. -/
structure Shortened (start full short : FlowRecord) : Prop where
  etherType : short.etherType = start.etherType ∨ short.etherType = full.etherType
  sourceAddress : short.sourceAddress = start.sourceAddress ∨ short.sourceAddress = full.sourceAddress
  destinationAddress :
    short.destinationAddress = start.destinationAddress ∨ short.destinationAddress = full.destinationAddress
  protocol : short.protocol = start.protocol ∨ short.protocol = full.protocol
  sourcePort : short.sourcePort = start.sourcePort ∨ short.sourcePort = full.sourcePort
  destinationPort : short.destinationPort = start.destinationPort ∨ short.destinationPort = full.destinationPort
  tcpFlags : short.tcpFlags = start.tcpFlags ∨ short.tcpFlags = full.tcpFlags
  others : full.SameApart short

theorem Shortened.refl (start full : FlowRecord) : Shortened start full full :=
  ⟨.inr rfl, .inr rfl, .inr rfl, .inr rfl, .inr rfl, .inr rfl, .inr rfl, rfl⟩

theorem Shortened.start {start full : FlowRecord} (same : start.SameApart full) : Shortened start full start := by
  refine ⟨.inl rfl, .inl rfl, .inl rfl, .inl rfl, .inl rfl, .inl rfl, .inl rfl, ?_⟩
  rw [SameApart, same]

theorem shortened_withPacket (start : FlowRecord) (etherType : EtherType) (front rest : Bytes) :
    Shortened start (start.withPacket etherType (front ++ rest)) (start.withPacket etherType front) := by
  cases read : internet? etherType front with
  | none =>
    have nothing : start.withPacket etherType front = start := by simp only [withPacket, read]
    rw [nothing]
    exact .start (sameApart_withPacket start etherType _)
  | some header =>
    have whole := internet?_append read rest
    cases transported : transport? header.protocol header.payload with
    | some transport =>
      have same : start.withPacket etherType (front ++ rest) = start.withPacket etherType front := by
        simp only [withPacket, read, whole, transported, transport?_append transported rest]
      rw [same]
      exact .refl start _
    | none =>
      -- Both know the Internet header. The transport header may be there as a whole in one of them only.
      simp only [withPacket, read, whole, transported]
      split
      · exact .refl start _
      · exact ⟨.inr rfl, .inr rfl, .inr rfl, .inr rfl, .inl rfl, .inl rfl, .inl rfl, rfl⟩

theorem etherType_withPacket {start : FlowRecord} {etherType : EtherType} (typed : start.etherType = etherType)
    (packet : Bytes) : (start.withPacket etherType packet).etherType = etherType := by
  unfold withPacket
  split
  · exact typed
  · dsimp only
    split <;> rfl

theorem shortened_withFrame (start : FlowRecord) (front rest : Bytes) :
    Shortened start (start.withFrame (front ++ rest)) (start.withFrame front) := by
  cases read : ethernet? front with
  | none =>
    have nothing : start.withFrame front = start := by simp only [withFrame, read]
    rw [nothing]
    exact .start (sameApart_withFrame start _)
  | some found =>
    obtain ⟨etherType, packet⟩ := found
    simp only [withFrame, read, ethernet?_append read rest]
    have typed := shortened_withPacket { start with etherType } etherType packet rest
    -- The ether type was known before the packet behind it was looked at.
    refine { typed with etherType := .inr ?_ }
    rw [etherType_withPacket rfl, etherType_withPacket rfl]

end FlowRecord

end FlowCollector
