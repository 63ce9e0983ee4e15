import FlowCollector.Protocol
import FlowCollector.Proofs.Reader.Taking

/-!
# Datagrams decoded over one store

A `Packet` is a datagram on its way to a decoder, and `Packet.decodeAll` decodes packets one after
another, each over the store that the ones before it left. Every packet is kept beside what came of it:
what a run shows of one exporter can then be picked out of it.

`headerDomain?` is where a header has its domain, said by offsets and not through the decoder. A header
that the decoder refuses, because the length in it is too small, still has one.

`Packet.decode_cases` says once what a datagram can be: a message of sets, which alone looks at the store,
a datagram of one of the two formats that remember nothing, or one that is refused. `Session.set_cases`
says the same of a set: it is a data set, or it has no records and leaves the rates alone.
-/

set_option autoImplicit false

namespace FlowCollector

/-- A datagram on its way to a decoder: what `Datagram.decode` takes it for, and where it came from. -/
structure Packet where
  /-- What it is taken for, which is the protocol of its input and not told by the payload. -/
  protocol : Protocol
  exporter : IpAddress
  timeReceived : UInt64
  payload : Bytes
  deriving DecidableEq, Repr

namespace Packet

/-- What comes of a datagram, by `Protocol.decode` over a store. -/
def decode (packet : Packet) (store : Store) : Decoded × Store :=
  packet.protocol.decode packet.exporter packet.timeReceived packet.payload store

/-- Decodes datagrams one after another by `Packet.decode`: each with what came of it, and the store in the end. -/
def decodeAll : List Packet → Store → List (Packet × Decoded) × Store
  | [], store => ([], store)
  | packet :: others, store =>
    let (first, store) := packet.decode store
    let (rest, store) := decodeAll others store
    ((packet, first) :: rest, store)

end Packet

namespace Netflow

/-- The four bytes at an offset, as a number. There may be fewer. -/
def wordAt (payload : Bytes) (offset : Nat) : UInt32 :=
  .ofNat (Bytes.toNat ((payload.drop offset).take 4))

/-- The domain in a header of version 9 or of IPFIX, by its offset and not through `Body.ofPayload`. -/
def headerDomain? (payload : Bytes) : Option UInt32 :=
  match Bytes.toNat (payload.take 2) with
  | 9 => if 20 ≤ payload.length then some (wordAt payload 16) else none
  | 10 => if 16 ≤ payload.length then some (wordAt payload 12) else none
  | _ => none

theorem wordAt_take {payload : Bytes} {offset count : Nat} (h : offset + 4 ≤ count) :
    wordAt (payload.take count) offset = wordAt payload offset :=
  congrArg UInt32.ofNat (payload.numberAt_take h)

theorem v9HeaderFields_eq {front : Bytes} (enough : Body.v9HeaderLength ≤ front.length) :
    Body.v9HeaderFields front = .ok (wordAt front 16, front.drop Body.v9HeaderLength) := by
  have passed : Reader.skip .v9Header 16 (front.drop 0) = .ok ((), front.drop 16) :=
    Reader.number_at _ _ (Nat.le_trans (by decide) enough)
  have domain : Reader.u32 .v9Header (front.drop 16) = .ok (wordAt front 16, front.drop Body.v9HeaderLength) :=
    Reader.number_at _ _ enough
  exact (Reader.bind_ok passed).trans domain

theorem ofV9_of_le {payload : Bytes} (enough : Body.v9HeaderLength ≤ payload.length) :
    Body.ofV9 payload = .ok (wordAt payload 16, payload.drop Body.v9HeaderLength) := by
  have fields : Body.v9HeaderFields.run (payload.take Body.v9HeaderLength) = .ok (_, _) :=
    v9HeaderFields_eq (Nat.le_of_eq (List.length_take_of_le enough).symm)
  unfold Body.ofV9
  rw [Reader.bind_ok (Reader.take_of_le _ enough), fields, wordAt_take (by decide)]
  rfl

theorem eq_of_ofV9_ok {payload sets : Bytes} {domain : UInt32}
    (h : Body.ofV9 payload = .ok (domain, sets)) :
    20 ≤ payload.length ∧ domain = wordAt payload 16 ∧ sets = payload.drop 20 := by
  obtain ⟨_, _, taken, -⟩ := Reader.exists_of_bind_ok h
  obtain ⟨enough, -, -⟩ := Reader.take_eq_ok taken
  obtain ⟨rfl, rfl⟩ := Prod.mk.inj (Except.ok.inj ((ofV9_of_le enough).symm.trans h))
  exact ⟨enough, rfl, rfl⟩

theorem ipfixHeaderFields_eq {front : Bytes} (enough : Body.ipfixHeaderLength ≤ front.length) :
    Body.ipfixHeaderFields front = .ok ((front.numberAt 2 2, wordAt front 12), front.drop Body.ipfixHeaderLength) := by
  have passed : ∀ offset width, offset + width ≤ Body.ipfixHeaderLength →
      Reader.skip .ipfixHeader width (front.drop offset) = .ok ((), front.drop (offset + width)) :=
    fun offset width inside => Reader.number_at _ _ (Nat.le_trans inside enough)
  have length : Reader.u16 .ipfixHeader (front.drop 2) = .ok (.ofNat (front.numberAt 2 2), front.drop 4) :=
    Reader.number_at _ _ (Nat.le_trans (by decide) enough)
  have domain : Reader.u32 .ipfixHeader (front.drop 12) = .ok (wordAt front 12, front.drop 16) :=
    Reader.number_at _ _ (Nat.le_trans (by decide) enough)
  show Body.ipfixHeaderFields (front.drop 0) = _
  unfold Body.ipfixHeaderFields
  rw [Reader.bind_ok (passed 0 2 (by decide)), Reader.bind_ok length, Reader.bind_ok (passed 4 8 (by decide)),
    Reader.bind_ok domain, UInt16.toNat_ofNat_of_lt' (front.numberAt_lt 2 2)]
  rfl

theorem ofIpfix_of_le {payload : Bytes} (enough : Body.ipfixHeaderLength ≤ payload.length) :
    Body.ofIpfix payload
      = .ok ((payload.numberAt 2 2, wordAt payload 12), payload.drop Body.ipfixHeaderLength) := by
  have fields : Body.ipfixHeaderFields.run (payload.take Body.ipfixHeaderLength) = .ok (_, _) :=
    ipfixHeaderFields_eq (Nat.le_of_eq (List.length_take_of_le enough).symm)
  unfold Body.ofIpfix
  rw [Reader.bind_ok (Reader.take_of_le _ enough), fields, Bytes.numberAt_take payload (by decide),
    wordAt_take (by decide)]
  rfl

theorem eq_of_ofIpfix_ok {payload sets : Bytes} {length : Nat} {domain : UInt32}
    (h : Body.ofIpfix payload = .ok ((length, domain), sets)) :
    16 ≤ payload.length ∧ domain = wordAt payload 12
      ∧ length = Bytes.toNat ((payload.drop 2).take 2) ∧ sets = payload.drop 16 := by
  obtain ⟨_, _, taken, -⟩ := Reader.exists_of_bind_ok h
  obtain ⟨enough, -, -⟩ := Reader.take_eq_ok taken
  obtain ⟨fields, rfl⟩ := Prod.mk.inj (Except.ok.inj ((ofIpfix_of_le enough).symm.trans h))
  obtain ⟨rfl, rfl⟩ := Prod.mk.inj fields
  exact ⟨enough, rfl, rfl, rfl⟩

/-- The first two bytes of a datagram are its version, as `decode` reads it. -/
theorem toNat_version {payload rest : Bytes} {version : UInt16}
    (h : (Reader.u16 .header).run payload = .ok (version, rest)) :
    Bytes.toNat (payload.take 2) = version.toNat := by
  obtain ⟨enough, rfl, -⟩ := Reader.u16_eq_ok h
  have below := Bytes.toNat_lt (payload.take 2)
  rw [List.length_take, Nat.min_eq_left enough] at below
  exact (UInt16.toNat_ofNat_of_lt' below).symm

/-- Where a message of IPFIX ends: `ofPayload` with all that it can answer, once its header is there. -/
theorem Body.ofPayload_ipfix {payload rest : Bytes} {length : Nat} {domain : UInt32}
    (h : ofIpfix.run payload = .ok ((length, domain), rest)) :
    ofPayload .ipfix payload
      = if length < ipfixHeaderLength then .error (.malformedLength .ipfixMessage length payload.length)
        else if payload.length < length then
          .ok { domain, sets := rest, cutOff := some (.truncated .ipfixMessage length payload.length) }
        else .ok { domain, sets := rest.take (length - ipfixHeaderLength) } := by
  simp only [ofPayload, h]
  rfl

/-- A header that `ofPayload` cannot use is cut off, or names a length that cannot be. It is no field that is wrong
with it. -/
theorem Body.reason_ne_of_ofPayload {version : Version} {payload : Bytes} {error : DecodeError}
    (h : ofPayload version payload = .error error) : error.reason ≠ .unsupportedField := by
  cases version with
  | v9 =>
    by_cases enough : v9HeaderLength ≤ payload.length
    · have read : ofV9.run payload = .ok _ := ofV9_of_le enough
      simp only [ofPayload, read] at h
      cases h
    · have short : ofV9.run payload = .error _ := Reader.bind_error (Reader.take_short _ (Nat.not_le.1 enough))
      simp only [ofPayload, short] at h
      obtain rfl := Except.error.inj h
      simp [DecodeError.reason]
  | ipfix =>
    by_cases enough : ipfixHeaderLength ≤ payload.length
    · have read : ofIpfix.run payload = .ok ((_, _), _) := ofIpfix_of_le enough
      rw [ofPayload_ipfix read] at h
      split at h
      · obtain rfl := Except.error.inj h
        simp [DecodeError.reason]
      · split at h <;> cases h
    · have short : ofIpfix.run payload = .error _ := Reader.bind_error (Reader.take_short _ (Nat.not_le.1 enough))
      simp only [ofPayload, short] at h
      obtain rfl := Except.error.inj h
      simp [DecodeError.reason]

/-- A message that has a body is about the domain in its header, `headerDomain?`. -/
theorem headerDomain?_of_v9 {payload : Bytes} {body : Body} (first : Bytes.toNat (payload.take 2) = 9)
    (h : Body.ofPayload .v9 payload = .ok body) : headerDomain? payload = some body.domain := by
  cases read : Body.ofV9.run payload with
  | error error =>
    simp only [Body.ofPayload, read] at h
    cases h
  | ok found =>
    simp only [Body.ofPayload, read] at h
    obtain rfl := Except.ok.inj h
    obtain ⟨enough, domain, -⟩ := eq_of_ofV9_ok read
    simp only [headerDomain?, first, if_pos enough, domain]

theorem headerDomain?_of_ipfix {payload : Bytes} {body : Body}
    (first : Bytes.toNat (payload.take 2) = 10)
    (h : Body.ofPayload .ipfix payload = .ok body) : headerDomain? payload = some body.domain := by
  cases read : Body.ofIpfix.run payload with
  | error error =>
    simp only [Body.ofPayload, read] at h
    cases h
  | ok found =>
    obtain ⟨enough, domain, -⟩ := eq_of_ofIpfix_ok read
    have same : body.domain = found.1.2 := by
      rw [Body.ofPayload_ipfix read] at h
      split at h
      · cases h
      · split at h
        · exact (congrArg Body.domain (Except.ok.inj h)).symm
        · exact (congrArg Body.domain (Except.ok.inj h)).symm
    simp only [headerDomain?, first, if_pos enough, same, domain]

/-! ## Sets -/

namespace Session

variable (session : Session)

/-- An announcement changes templates by `Session.announce`, and gives no record and no rate. -/
theorem announce_silent (said : Announcement) (store : Store) :
    (session.announce said store).1.records = []
      ∧ (session.announce said store).2.rates = store.rates := by
  unfold announce
  cases said with
  | define id template =>
    dsimp only
    split <;> exact ⟨rfl, rfl⟩
  | withdraw id =>
    dsimp only
    split
    · exact ⟨rfl, rfl⟩
    · split <;> exact ⟨rfl, rfl⟩
  | blank => exact ⟨rfl, rfl⟩

theorem announceAll_silent (said : List Announcement × Option DecodeError) (store : Store) :
    (session.announceAll said store).1.records = []
      ∧ (session.announceAll said store).2.rates = store.rates := by
  have silent : ∀ (all : List Announcement) (store : Store),
      (Decoded.sequence session.announce all store).1.records = []
        ∧ (Decoded.sequence session.announce all store).2.rates = store.rates := by
    intro all
    induction all with
    | nil => exact fun _ => ⟨rfl, rfl⟩
    | cons one others ih =>
      intro store
      obtain ⟨no_record, kept⟩ := session.announce_silent one store
      obtain ⟨no_records, kept_behind⟩ := ih (session.announce one store).2
      refine ⟨?_, kept_behind.trans kept⟩
      simp only [Decoded.sequence, Decoded.records_append, no_record, no_records, List.nil_append]
  obtain ⟨no_records, kept⟩ := silent said.1 store
  refine ⟨?_, kept⟩
  simp only [announceAll, Decoded.records_append, no_records, Decoded.ofErrors, List.nil_append]

/-- What a set can be: a data set, which is `Session.dataSet`, or one without records that leaves the rates alone. One
that announces templates has a number that no data set has. -/
theorem set_cases (raw : RawSet) :
    (leastDataSetId ≤ raw.id
        ∧ ∀ store, session.set raw store = session.dataSet raw.id raw.body store)
      ∨ (¬ leastDataSetId ≤ raw.id ∧ ∀ store, (session.set raw store).1.records = []
        ∧ (session.set raw store).2.rates = store.rates) := by
  have unlike : ¬ leastDataSetId ≤ session.version.templateSetId
      ∧ ¬ leastDataSetId ≤ session.version.optionsTemplateSetId := by
    cases session.version <;> decide
  by_cases templates : raw.id = session.version.templateSetId
  · refine .inr ⟨templates ▸ unlike.1, fun store => ?_⟩
    rw [set, if_pos templates]
    exact session.announceAll_silent _ store
  by_cases options : raw.id = session.version.optionsTemplateSetId
  · refine .inr ⟨options ▸ unlike.2, fun store => ?_⟩
    rw [set, if_neg templates, if_pos options]
    exact session.announceAll_silent _ store
  by_cases data : leastDataSetId ≤ raw.id
  · refine .inl ⟨data, fun store => ?_⟩
    rw [set, if_neg templates, if_neg options, if_pos data]
  · refine .inr ⟨data, fun store => ?_⟩
    rw [set, if_neg templates, if_neg options, if_neg data]
    exact ⟨rfl, rfl⟩

end Session

end Netflow

/-! ## Datagrams -/

namespace Packet

open Netflow

/-- The number that a datagram starts with, which for NetFlow is its version. -/
def versionNumber? (packet : Packet) : Option Nat :=
  match packet.payload with
  | high :: low :: _ => some (Bytes.toNat [high, low])
  | _ => none

/-- The version of a message of sets: a NetFlow datagram that starts with the number of one. -/
def version? (packet : Packet) : Option Version :=
  match packet.protocol, packet.versionNumber? with
  | .netflow, some 9 => some .v9
  | .netflow, some 10 => some .ipfix
  | _, _ => none

/-- True of the datagrams of NetFlow version 5, as they start. -/
def isVersion5 (packet : Packet) : Bool :=
  packet.protocol == .netflow && packet.versionNumber? == some 5

/-- A message of sets whose header can be read: the `Session` that holds for all of it, and its `Body`. -/
def message? (packet : Packet) : Option (Session × Body) :=
  match packet.version? with
  | none => none
  | some version =>
    match Body.ofPayload version packet.payload with
    | .error _ => none
    | .ok body => some (⟨version, packet.exporter, body.domain, packet.timeReceived⟩, body)

theorem versionNumber?_of_error {packet : Packet} {error : DecodeError}
    (h : (Reader.u16 .header).run packet.payload = .error error) : packet.versionNumber? = none := by
  unfold versionNumber?
  split
  · rename_i high low rest found
    have enough : Reader.take .header 2 ([high, low] ++ rest) = .ok ([high, low], rest) :=
      Reader.take_append (show [high, low].length = 2 from rfl) rest
    rw [found] at h
    have read := (Reader.bind_ok enough).symm.trans h
    cases read
  · rfl

theorem versionNumber?_of_ok {packet : Packet} {version : UInt16} {rest : Bytes}
    (h : (Reader.u16 .header).run packet.payload = .ok (version, rest)) :
    packet.versionNumber? = some version.toNat := by
  obtain ⟨enough, -, -⟩ := Reader.u16_eq_ok h
  have number := toNat_version h
  unfold versionNumber?
  split
  · rename_i high low behind found
    rw [found] at number
    exact congrArg some number
  · rename_i short
    match found : packet.payload with
    | [] | [_] =>
      rw [found] at enough
      simp at enough
    | high :: low :: behind => exact absurd found (short high low behind)

theorem message?_of_version? {packet : Packet} (none_named : packet.version? = none) :
    packet.message? = none := by
  unfold message?
  rw [none_named]

theorem message_cases {packet : Packet} {version : Version} (named : packet.version? = some version)
    (decoded : ∀ store, packet.decode store
      = decodeMessage version packet.exporter packet.timeReceived packet.payload store) :
    (∃ session body, packet.message? = some (session, body) ∧ ∀ store,
        packet.decode store = (.ofErrors body.cutOff.toList ++ (session.sets body.sets store).1,
          (session.sets body.sets store).2))
      ∨ packet.message? = none ∧ ∃ error : DecodeError, error.reason ≠ .unsupportedField
        ∧ ∀ store, packet.decode store = (.ofError error, store) := by
  simp only [message?, named, decoded, decodeMessage]
  cases read : Body.ofPayload version packet.payload with
  | error error => exact .inr ⟨rfl, error, Body.reason_ne_of_ofPayload read, fun _ => rfl⟩
  | ok body => exact .inl ⟨_, body, rfl, fun _ => rfl⟩

/-- What a datagram can be, and what comes of it: a `message?`, a datagram of a format that remembers nothing, or one
that is refused for its header, which has no fields. -/
theorem decode_kinds (packet : Packet) :
    (∃ session body, packet.message? = some (session, body) ∧ ∀ store,
        packet.decode store = (.ofErrors body.cutOff.toList ++ (session.sets body.sets store).1,
          (session.sets body.sets store).2))
      ∨ (packet.message? = none ∧ packet.protocol = .sflow ∧ ∀ store, packet.decode store
          = (Sflow.decode packet.exporter packet.timeReceived packet.payload, store))
      ∨ (packet.message? = none ∧ packet.isVersion5 ∧ ∀ store, packet.decode store
          = (Version5.decode packet.exporter packet.timeReceived packet.payload, store))
      ∨ packet.message? = none ∧ ∃ error : DecodeError, error.reason ≠ .unsupportedField
        ∧ ∀ store, packet.decode store = (.ofError error, store) := by
  obtain ⟨protocol, exporter, timeReceived, payload⟩ := packet
  cases protocol with
  | sflow => exact .inr (.inl ⟨rfl, rfl, fun _ => rfl⟩)
  | netflow =>
    generalize made : Packet.mk .netflow exporter timeReceived payload = packet
    have protocol : packet.protocol = .netflow := made ▸ rfl
    have decoded : ∀ store, packet.decode store
        = Netflow.decode packet.exporter packet.timeReceived packet.payload store :=
      fun _ => made ▸ rfl
    cases number : (Reader.u16 .header).run packet.payload with
    | error error =>
      have unnamed : packet.version? = none := by
        simp [version?, protocol, versionNumber?_of_error number]
      have short : error.reason ≠ .unsupportedField := by
        obtain ⟨place, needed, available, rfl⟩ := Reader.FailsShort.u16 _ _ _ number
        simp [DecodeError.reason]
      refine .inr (.inr (.inr ⟨message?_of_version? unnamed, error, short, fun store => ?_⟩))
      simp only [decoded, Netflow.decode, number]
    | ok found =>
      obtain ⟨version, rest⟩ := found
      have named := versionNumber?_of_ok number
      simp only [Netflow.decode, number] at decoded
      by_cases five : version = 5
      · have unnamed : packet.version? = none := by simp [version?, protocol, named, five]
        have own : packet.isVersion5 := by simp [isVersion5, protocol, named, five]
        refine .inr (.inr (.inl ⟨message?_of_version? unnamed, own, fun store => ?_⟩))
        rw [decoded, if_pos five]
      · by_cases nine : version = 9
        · have own : packet.version? = some .v9 := by simp [version?, protocol, named, nine]
          refine (message_cases own fun store => ?_).imp_right fun refused => .inr (.inr refused)
          rw [decoded, if_neg five, if_pos nine]
        · by_cases ten : version = 10
          · have own : packet.version? = some .ipfix := by simp [version?, protocol, named, ten]
            refine (message_cases own fun store => ?_).imp_right fun refused => .inr (.inr refused)
            rw [decoded, if_neg five, if_neg nine, if_pos ten]
          · have unnamed : packet.version? = none := by
              have notNine : version.toNat ≠ 9 := fun same => nine (UInt16.toNat_inj.1 same)
              have notTen : version.toNat ≠ 10 := fun same => ten (UInt16.toNat_inj.1 same)
              unfold version?
              rw [protocol, named]
              split <;> simp_all
            refine .inr (.inr (.inr ⟨message?_of_version? unnamed,
              .unsupportedVersion version.toUInt32, by simp [DecodeError.reason], fun store => ?_⟩))
            rw [decoded, if_neg five, if_neg nine, if_neg ten]

theorem decode_cases (packet : Packet) :
    (∃ session body, packet.message? = some (session, body) ∧ ∀ store,
        packet.decode store = (.ofErrors body.cutOff.toList ++ (session.sets body.sets store).1,
          (session.sets body.sets store).2))
      ∨ (packet.message? = none ∧ packet.protocol = .sflow ∧ ∀ store, packet.decode store
          = (Sflow.decode packet.exporter packet.timeReceived packet.payload, store))
      ∨ (packet.message? = none ∧ packet.isVersion5 ∧ ∀ store, packet.decode store
          = (Version5.decode packet.exporter packet.timeReceived packet.payload, store))
      ∨ packet.message? = none ∧ ∃ error, ∀ store, packet.decode store = (.ofError error, store) := by
  refine packet.decode_kinds.imp_right (.imp_right (.imp_right fun kind => ?_))
  obtain ⟨refused, error, -, decoded⟩ := kind
  exact ⟨refused, error, decoded⟩

end Packet

end FlowCollector
