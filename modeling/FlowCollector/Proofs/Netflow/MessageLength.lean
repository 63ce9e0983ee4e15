import FlowCollector.Proofs.Netflow.Framing
import FlowCollector.Proofs.Persistence

/-!
# Where a message of IPFIX ends

A message of IPFIX says how long it is, and the datagram that it comes in may be longer or shorter. What is behind its end
is not part of it, not even of a set that is begun in it. If the datagram ends first, the message is taken for one that
says so, apart from one error: all of its sets that are complete are decoded.
-/

set_option autoImplicit false

namespace FlowCollector.Netflow

/-- The same bytes, but for the length that a message of IPFIX declares in the third and fourth of them. -/
def withLength (payload : Bytes) (length : Nat) : Bytes := payload.take 2 ++ (Bytes.ofNat 2 length ++ payload.drop 4)

section withLength

variable {payload : Bytes} (enough : 4 ≤ payload.length) (length : Nat)
include enough

theorem length_withLength : (withLength payload length).length = payload.length := by
  simp [withLength]
  omega

/-- Behind the length everything stands where it stood, so `withLength` changes no set. -/
theorem drop_withLength {offset : Nat} (behind : 4 ≤ offset) :
    (withLength payload length).drop offset = payload.drop offset := by
  have front : (payload.take 2 ++ Bytes.ofNat 2 length).length = 4 := by
    simp
    omega
  have cut : (withLength payload length).drop 4 = payload.drop 4 := by
    rw [withLength, ← List.append_assoc]
    exact List.drop_left' front
  calc (withLength payload length).drop offset
      = ((withLength payload length).drop 4).drop (offset - 4) := by rw [List.drop_drop, Nat.add_sub_cancel' behind]
    _ = payload.drop offset := by rw [cut, List.drop_drop, Nat.add_sub_cancel' behind]

theorem version_withLength : (withLength payload length).numberAt 0 2 = payload.numberAt 0 2 := by
  have front : (payload.take 2).length = 2 := List.length_take_of_le (by omega)
  show Bytes.toNat ((withLength payload length).take 2) = Bytes.toNat (payload.take 2)
  rw [withLength, List.take_left' front]

theorem declared_withLength {length : Nat} (fits : length < 65536) :
    (withLength payload length).numberAt 2 2 = length := by
  have front : (payload.take 2).length = 2 := List.length_take_of_le (by omega)
  refine Bytes.numberAt_of_written fits ?_
  rw [withLength, List.drop_left' front]
  exact List.take_left' (Bytes.length_ofNat 2 length)

end withLength

/-- The `Body` of a message is told by its header, its length and the bytes up to its end. -/
theorem Body.ofPayload_ipfix_of_le {payload : Bytes} (enough : ipfixHeaderLength ≤ payload.length)
    (whole : ipfixHeaderLength ≤ payload.numberAt 2 2) :
    ofPayload .ipfix payload
      = .ok ⟨wordAt payload 12, (payload.take (payload.numberAt 2 2)).drop ipfixHeaderLength,
          if payload.length < payload.numberAt 2 2 then
            some (.truncated .ipfixMessage (payload.numberAt 2 2) payload.length)
          else none⟩ := by
  rw [ofPayload_ipfix (ofIpfix_of_le enough), if_neg (Nat.not_lt.2 whole), List.drop_take]
  split
  · rename_i beyond
    have all : (payload.drop ipfixHeaderLength).length ≤ payload.numberAt 2 2 - ipfixHeaderLength := by
      rw [List.length_drop]
      omega
    rw [List.take_of_length_le all]
  · rfl

variable {exporter : IpAddress} {timeReceived : UInt64} {payload : Bytes}

theorem decode_ipfix (enough : 2 ≤ payload.length) (version : payload.numberAt 0 2 = 10) (store : Store) :
    decode exporter timeReceived payload store = decodeMessage .ipfix exporter timeReceived payload store :=
  decode_of_version enough (show _ = Version.ipfix.number from version) exporter timeReceived store

/-- A message that its datagram holds as a whole is decoded without what stands behind it. -/
theorem decode_append_of_declared (version : payload.numberAt 0 2 = 10)
    (whole : Body.ipfixHeaderLength ≤ payload.numberAt 2 2) (held : payload.numberAt 2 2 ≤ payload.length) (junk : Bytes)
    (store : Store) :
    decode exporter timeReceived (payload ++ junk) store = decode exporter timeReceived payload store := by
  have enough : Body.ipfixHeaderLength ≤ payload.length := Nat.le_trans whole held
  have longer : payload.length ≤ (payload ++ junk).length := List.length_append ▸ Nat.le_add_right _ _
  have inHeader : ∀ {offset width : Nat}, offset + width ≤ Body.ipfixHeaderLength →
      Bytes.numberAt (payload ++ junk) offset width = payload.numberAt offset width :=
    fun inside => Bytes.numberAt_append junk (Nat.le_trans inside enough)
  have declared : Bytes.numberAt (payload ++ junk) 2 2 = payload.numberAt 2 2 := inHeader (by decide)
  have domain : wordAt (payload ++ junk) 12 = wordAt payload 12 := congrArg UInt32.ofNat (inHeader (by decide))
  have body : Body.ofPayload .ipfix (payload ++ junk) = Body.ofPayload .ipfix payload := by
    rw [Body.ofPayload_ipfix_of_le enough whole,
      Body.ofPayload_ipfix_of_le (Nat.le_trans enough longer) (declared.symm ▸ whole), declared, domain,
      if_neg (Nat.not_lt.2 held), if_neg (Nat.not_lt.2 (Nat.le_trans held longer)), List.take_append_of_le_length held]
  have two : 2 ≤ payload.length := Nat.le_trans (by decide) enough
  rw [decode_ipfix two version, decode_ipfix (Nat.le_trans two longer) ((inHeader (by decide)).trans version),
    decodeMessage, decodeMessage, body]

/-- A message that its datagram does not hold as a whole is decoded as if it ended there (`withLength`), with one
error more. -/
theorem decode_of_cut_off (version : payload.numberAt 0 2 = 10) (enough : Body.ipfixHeaderLength ≤ payload.length)
    (beyond : payload.length < payload.numberAt 2 2) (store : Store) :
    let ended := decode exporter timeReceived (withLength payload payload.length) store
    decode exporter timeReceived payload store
      = (.ofError (.truncated .ipfixMessage (payload.numberAt 2 2) payload.length) ++ ended.1, ended.2) := by
  intro ended
  have four : 4 ≤ payload.length := Nat.le_trans (by decide) enough
  have same := length_withLength four payload.length
  have declared : (withLength payload payload.length).numberAt 2 2 = payload.length :=
    declared_withLength four (Nat.lt_trans beyond (payload.numberAt_lt 2 2))
  have domain : wordAt (withLength payload payload.length) 12 = wordAt payload 12 := by
    rw [wordAt, drop_withLength four _ (by decide)]
    rfl
  -- Neither message goes further than its datagram, so both have all of its sets.
  have sets : (payload.take (payload.numberAt 2 2)).drop Body.ipfixHeaderLength
      = ((withLength payload payload.length).take payload.length).drop Body.ipfixHeaderLength := by
    rw [List.take_of_length_le (Nat.le_of_lt beyond), List.take_of_length_le (Nat.le_of_eq same),
      drop_withLength four _ (by decide)]
  have cutOff := Body.ofPayload_ipfix_of_le enough (Nat.le_trans enough (Nat.le_of_lt beyond))
  have whole := Body.ofPayload_ipfix_of_le (same.symm ▸ enough) (declared.symm ▸ enough)
  rw [if_pos beyond, sets] at cutOff
  rw [declared, domain, same, if_neg (Nat.lt_irrefl _)] at whole
  have ending : ended = decodeMessage .ipfix exporter timeReceived (withLength payload payload.length) store :=
    decode_ipfix (same.symm ▸ Nat.le_trans (by decide) four) ((version_withLength four _).trans version) store
  rw [decode_ipfix (Nat.le_trans (by decide) four) version, ending, decodeMessage, decodeMessage, cutOff, whole]
  dsimp only
  exact Prod.ext (congrArg (Decoded.append _) (Decoded.nothing_append _).symm) rfl

/-- A message of IPFIX is as long as it says, in the number at its third byte. What its datagram has behind the end
makes no difference to `decode`, and might as well not be there. If the datagram ends first, there is one error in
front of what the same message comes to that declares the length which is there (`withLength`). -/
theorem decode_by_declared_length (version : payload.numberAt 0 2 = 10)
    (whole : Body.ipfixHeaderLength ≤ payload.numberAt 2 2) (exporter : IpAddress) (timeReceived : UInt64)
    (store : Store) :
    let declared := payload.numberAt 2 2
    (declared ≤ payload.length →
      (∀ junk, decode exporter timeReceived (payload ++ junk) store = decode exporter timeReceived payload store)
        ∧ decode exporter timeReceived (payload.take declared) store = decode exporter timeReceived payload store)
    ∧ (Body.ipfixHeaderLength ≤ payload.length → payload.length < declared →
      let ended := decode exporter timeReceived (withLength payload payload.length) store
      decode exporter timeReceived payload store
        = (.ofError (.truncated .ipfixMessage declared payload.length) ++ ended.1, ended.2)) := by
  intro declared
  refine ⟨fun held => ⟨fun junk => decode_append_of_declared version whole held junk store, ?_⟩,
    fun enough beyond => decode_of_cut_off version enough beyond store⟩
  -- What is behind the end is junk that was put behind the message.
  have width : (payload.take declared).length = declared := List.length_take_of_le held
  have inHeader : ∀ {offset width : Nat}, offset + width ≤ Body.ipfixHeaderLength →
      Bytes.numberAt (payload.take declared) offset width = payload.numberAt offset width :=
    fun inside => payload.numberAt_take (Nat.le_trans inside whole)
  have length : Bytes.numberAt (payload.take declared) 2 2 = declared := inHeader (by decide)
  have alone : decode exporter timeReceived (payload.take declared ++ payload.drop declared) store = _ :=
    decode_append_of_declared ((inHeader (by decide)).trans version) (length.symm ▸ whole)
      (Nat.le_of_eq (length.trans width.symm)) _ store
  rw [List.take_append_drop] at alone
  exact alone.symm

/-- A template and a record, with the same data set once more behind the end; and both in a message that promises two
hundred bytes, of which there are the two sets and the header of a third. -/
theorem decode_by_declared_length_either_way :
    let exporter : IpAddress := .v4 ⟨192, 0, 2, 1⟩
    let header : Header := ⟨.ipfix, 7, List.replicate 8 0, rfl⟩
    let announcing := RawSet.encode ⟨2, [1, 0, 0, 1, 0, 8, 0, 4]⟩
    let data := RawSet.encode ⟨256, [10, 0, 0, 1]⟩
    let longer := header.message (announcing ++ data) ++ data
    let shorter := withLength (header.message (announcing ++ data ++ [1, 0, 0, 99])) 200
    let ended := decode exporter 0 (withLength shorter shorter.length) ∅
    longer.numberAt 0 2 = 10 ∧ 16 ≤ longer.numberAt 2 2 ∧ longer.numberAt 2 2 ≤ longer.length
      ∧ shorter.numberAt 0 2 = 10 ∧ shorter.numberAt 2 2 = 200 ∧ shorter.length = 40
      ∧ (decode exporter 0 longer ∅).1.records.length = 1 ∧ (decode exporter 0 longer ∅).1.errors = []
      ∧ decode exporter 0 (longer ++ [0, 2, 0]) ∅ = decode exporter 0 longer ∅
      ∧ decode exporter 0 (longer.take (longer.numberAt 2 2)) ∅ = decode exporter 0 longer ∅
      ∧ ended.1.records.length = 1 ∧ ended.1.errors = [.truncated .set 95 0]
      ∧ decode exporter 0 shorter ∅ = (.ofError (.truncated .ipfixMessage 200 40) ++ ended.1, ended.2) := by
  intro exporter header announcing data longer shorter ended
  have longerVersion : longer.numberAt 0 2 = 10 := by decide +kernel
  have whole : 16 ≤ longer.numberAt 2 2 := by decide +kernel
  have held : longer.numberAt 2 2 ≤ longer.length := by decide +kernel
  have shorterVersion : shorter.numberAt 0 2 = 10 := by decide +kernel
  have declared : shorter.numberAt 2 2 = 200 := by decide +kernel
  have width : shorter.length = 40 := by decide +kernel
  obtain ⟨ignored, alone⟩ := (decode_by_declared_length longerVersion whole exporter 0 ∅).1 held
  have cutOff := (decode_by_declared_length shorterVersion (by rw [declared]; decide) exporter 0 ∅).2
    (by rw [width]; decide) (by rw [width, declared]; decide)
  refine ⟨longerVersion, whole, held, shorterVersion, declared, width, by decide +kernel, by decide +kernel, ignored _,
    alone, by decide +kernel, by decide +kernel, ?_⟩
  rw [← declared, ← width]
  exact cutOff

end FlowCollector.Netflow
