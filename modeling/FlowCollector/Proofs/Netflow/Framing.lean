import FlowCollector.Netflow.Message
import FlowCollector.Proofs.Reader.Properties
import FlowCollector.Proofs.Reader.Spelling

/-!
# Sets one behind the other

A message is a header and a row of sets, and decoding the row is decoding its sets in turn. The main
statement says how far that goes: a row can be cut behind any complete set, and what stands behind the
cut is decoded as if it stood alone, over the store that the front left. So a set hands on what it
stored and nothing else, least of all its errors.

`Header.message` writes the header as well. It leaves the counts, times and numbers that decoding passes
over to its user, so what is shown of a message is shown whatever they are.
-/

set_option autoImplicit false

namespace FlowCollector.Netflow

namespace RawSet

/-- A set whose length, with `headerLength`, can be declared in the two bytes there are for it. -/
def Fits (set : RawSet) : Prop := headerLength + set.body.length < 65536

instance (set : RawSet) : Decidable set.Fits := inferInstanceAs (Decidable (_ < _))

theorem length_encode (set : RawSet) : set.encode.length = headerLength + set.body.length := by
  simp [encode, headerLength]
  omega

theorem read_encode {set : RawSet} (fits : set.Fits) (rest : Bytes) :
    read (set.encode ++ rest) = .ok (set, rest) := by
  obtain ⟨id, body⟩ := set
  have declared : body.length + headerLength < 65536 := by
    simpa [Fits, Nat.add_comm] using fits
  have back : (UInt16.ofNat (body.length + headerLength)).toNat = body.length + headerLength :=
    UInt16.toNat_ofNat_of_lt' declared
  unfold read encode
  simp only [List.append_assoc]
  rw [Reader.bind_ok (Reader.u16_toNat _ id _), Reader.bind_ok (Reader.u16_ofNat _ declared _),
    Reader.bind_ok (Reader.remaining_apply _), back, if_neg (by omega)]
  rw [Reader.bind_ok (Reader.take_append (by omega : body.length = _) rest)]
  rfl

/-- A row of complete sets is cut by `split` back into them, and what stands behind it is cut as if it stood alone. -/
theorem split_written {raw : List RawSet} (fit : ∀ set ∈ raw, set.Fits) (rest : Bytes) :
    split (raw.flatMap encode ++ rest) = (raw ++ (split rest).1, (split rest).2) := by
  have long : ∀ set ∈ raw, headerLength ≤ (encode set).length := fun set _ => by
    rw [length_encode]
    omega
  have cut := Reader.many_written (fun set : RawSet => set) (by decide) long
    (fun set mem => read_encode (fit set mem)) rest
  rwa [List.map_id'] at cut

/-- A set that `read` can cut out of any bytes is written in front of them, as `encode` writes it. -/
theorem spells_read : Reader.Spells read fun set front => set.Fits ∧ front = set.encode := by
  unfold read
  refine (Reader.Spells.u16 _).bind fun id _ number => (Reader.Spells.u16 _).bind fun length _ declared =>
    Reader.Spells.remaining.bind fun remaining _ nothing => ?_
  subst number declared nothing
  split
  · exact .fail _
  case isFalse long =>
    refine (Reader.Spells.take _ _).bind fun _ body taken => .pure ?_
    obtain ⟨width, rfl⟩ := taken
    have below := length.toNat_lt
    have whole : List.length body + headerLength = length.toNat := by omega
    constructor
    · show headerLength + List.length body < 65536
      omega
    · simp [encode, whole]

/-- What stands behind a set has no part in it, and `read` leaves it as it is. -/
theorem local_read : Reader.Local read := by
  intro bytes set rest taken behind
  obtain ⟨front, ⟨fits, rfl⟩, rfl⟩ := spells_read _ _ _ taken
  rw [List.append_assoc]
  exact read_encode fits _

/-- Whatever a body is, it starts with the sets that `split` cuts out of it. -/
theorem exists_split_append (body : Bytes) :
    ∃ rest, body = (split body).1.flatMap encode ++ rest ∧ ∀ set ∈ (split body).1, set.Fits :=
  spells_read.many_encode headerLength body

end RawSet

/-- True of the bytes that are complete sets one behind the other: each declares the length it has. -/
def Complete (sets : Bytes) : Prop :=
  ∃ raw : List RawSet, (∀ set ∈ raw, set.Fits) ∧ sets = raw.flatMap RawSet.encode

theorem Complete.single {set : RawSet} (fits : set.Fits) : Complete set.encode :=
  ⟨[set], by simpa using fits, by simp⟩

namespace Session

/-- What a row of complete sets comes to by `Session.sets`: its sets in turn, and no error of the row itself. -/
theorem sets_written (session : Session) {raw : List RawSet} (fit : ∀ set ∈ raw, set.Fits)
    (store : Store) :
    session.sets (raw.flatMap RawSet.encode) store
      = Decoded.sequence session.set raw store := by
  have cut := RawSet.split_written fit []
  rw [List.append_nil] at cut
  have none_left : RawSet.split [] = ([], none) := Reader.many_short _ (by decide)
  simp only [sets, cut, none_left, List.append_nil]
  exact Prod.ext (Decoded.append_nothing _) rfl

/-- A row of sets can be cut behind any sets that are `Complete`: the store is all that goes over to the back. -/
theorem sets_append (session : Session) {front : Bytes} (complete : Complete front) (back : Bytes)
    (store : Store) :
    session.sets (front ++ back) store
      = ((session.sets front store).1 ++ (session.sets back (session.sets front store).2).1,
        (session.sets back (session.sets front store).2).2) := by
  obtain ⟨raw, fit, rfl⟩ := complete
  rw [session.sets_written fit]
  simp only [sets, RawSet.split_written fit, Decoded.sequence_append, Decoded.append_assoc]

end Session

/-! ## Headers -/

/-- The number that a message of a version starts with, by which `decode` knows it. -/
def Version.number : Version → Nat
  | .v9 => 9
  | .ipfix => 10

/-- The number that a datagram starts with decides how it is decoded, and nothing else of the datagram does. -/
theorem decode_of_number {payload : Bytes} {number : UInt16} (enough : 2 ≤ payload.length)
    (first : Bytes.toNat (payload.take 2) = number.toNat) (exporter : IpAddress) (timeReceived : UInt64)
    (store : Store) :
    decode exporter timeReceived payload store
      = if number = 5 then (Version5.decode exporter timeReceived payload, store)
        else if number = 9 then decodeMessage .v9 exporter timeReceived payload store
        else if number = 10 then decodeMessage .ipfix exporter timeReceived payload store
        else (.ofError (.unsupportedVersion number.toUInt32), store) := by
  have read : (Reader.u16 .header).run payload = .ok (number, payload.drop 2) := by
    refine (Reader.bind_ok (Reader.take_of_le _ enough)).trans ?_
    rw [first, UInt16.ofNat_toNat]
    rfl
  simp only [decode, read]

theorem decode_of_version {version : Version} {payload : Bytes} (enough : 2 ≤ payload.length)
    (first : Bytes.toNat (payload.take 2) = version.number) (exporter : IpAddress) (timeReceived : UInt64)
    (store : Store) :
    decode exporter timeReceived payload store = decodeMessage version exporter timeReceived payload store := by
  cases version with
  | v9 => exact decode_of_number enough (show _ = (9 : UInt16).toNat from first) exporter timeReceived store
  | ipfix => exact decode_of_number enough (show _ = (10 : UInt16).toNat from first) exporter timeReceived store

/-- How many bytes of a header decoding passes over, those of `Header.passed`. -/
def Version.passedLength : Version → Nat
  | .v9 => 14
  | .ipfix => 8

/-- What a message says of itself, apart from its length. `Header.message` puts it in front of sets. -/
structure Header where
  version : Version
  domain : UInt32
  /-- The counts, times and sequence numbers in front of the domain. -/
  passed : Bytes
  passed_length : passed.length = version.passedLength

namespace Header

/-- The length that a message declares, in the two bytes that IPFIX has for it. Version 9 declares none. -/
def declared (header : Header) (sets : Bytes) : Bytes :=
  match header.version with
  | .v9 => []
  | .ipfix => Bytes.ofNat 2 (Body.ipfixHeaderLength + sets.length)

/-- A message with this header, which is read as such if the header `Fits` its sets. -/
def message (header : Header) (sets : Bytes) : Bytes :=
  Bytes.ofNat 2 header.version.number ++ (header.declared sets
    ++ (header.passed ++ (Bytes.ofNat 4 header.domain.toNat ++ sets)))

/-- True when the length of the message can be `declared`, where it has to be. -/
def Fits (header : Header) (sets : Bytes) : Prop :=
  header.version = .ipfix → Body.ipfixHeaderLength + sets.length < 65536

/-- What holds for all of a message with this header, as `decodeMessage` makes it. -/
def session (header : Header) (exporter : IpAddress) (timeReceived : UInt64) : Session :=
  ⟨header.version, exporter, header.domain, timeReceived⟩

theorem length_message (header : Header) (sets : Bytes) :
    (header.message sets).length
      = (match header.version with
          | .v9 => Body.v9HeaderLength
          | .ipfix => Body.ipfixHeaderLength) + sets.length := by
  obtain ⟨version, domain, passed, passed_length⟩ := header
  cases version with
  | v9 =>
    simp [message, declared, passed_length, Version.passedLength, Body.v9HeaderLength]
    omega
  | ipfix =>
    simp [message, declared, passed_length, Version.passedLength, Body.ipfixHeaderLength]
    omega

/-- The front is any two bytes, since `decode` has looked at what they say before. -/
theorem ofV9_written {front passed : Bytes} (front_length : front.length = 2)
    (passed_length : passed.length = 14) (domain : UInt32) (sets : Bytes) :
    Body.ofV9 (front ++ (passed ++ (Bytes.ofNat 4 domain.toNat ++ sets))) = .ok (domain, sets) := by
  have skipped : (front ++ passed).length = 16 := by
    simp [front_length, passed_length]
  -- The header is taken whole before its fields are read, so they are read where nothing follows them.
  have whole : ((front ++ passed) ++ Bytes.ofNat 4 domain.toNat).length = Body.v9HeaderLength := by
    rw [List.length_append, skipped, Bytes.length_ofNat]
    rfl
  have value := Reader.u32_toNat .v9Header domain []
  rw [List.append_nil] at value
  have fields : Body.v9HeaderFields.run ((front ++ passed) ++ Bytes.ofNat 4 domain.toNat)
      = .ok (domain, []) := by
    unfold Body.v9HeaderFields
    exact (Reader.bind_ok (Reader.skip_append skipped _)).trans value
  rw [← List.append_assoc front, ← List.append_assoc (front ++ passed)]
  unfold Body.ofV9
  rw [Reader.bind_ok (Reader.take_append whole sets), fields]
  rfl

theorem ofIpfix_written {front passed : Bytes} {length : Nat} (front_length : front.length = 2)
    (fits : length < 65536) (passed_length : passed.length = 8)
    (domain : UInt32) (sets : Bytes) :
    Body.ofIpfix (front ++ (Bytes.ofNat 2 length
        ++ (passed ++ (Bytes.ofNat 4 domain.toNat ++ sets))))
      = .ok ((length, domain), sets) := by
  have whole : (front ++ (Bytes.ofNat 2 length ++ (passed ++ Bytes.ofNat 4 domain.toNat))).length
      = Body.ipfixHeaderLength := by
    simp [front_length, passed_length, Body.ipfixHeaderLength]
  have value := Reader.u32_toNat .ipfixHeader domain []
  rw [List.append_nil] at value
  have fields : Body.ipfixHeaderFields.run
        (front ++ (Bytes.ofNat 2 length ++ (passed ++ Bytes.ofNat 4 domain.toNat)))
      = .ok ((length, domain), []) := by
    show Body.ipfixHeaderFields _ = _
    unfold Body.ipfixHeaderFields
    rw [Reader.bind_ok (Reader.skip_append front_length _),
      Reader.bind_ok (Reader.u16_ofNat _ fits _),
      Reader.bind_ok (Reader.skip_append passed_length _), Reader.bind_ok value,
      UInt16.toNat_ofNat_of_lt' fits]
    rfl
  have regroup : front ++ (Bytes.ofNat 2 length ++ (passed ++ (Bytes.ofNat 4 domain.toNat ++ sets)))
      = (front ++ (Bytes.ofNat 2 length ++ (passed ++ Bytes.ofNat 4 domain.toNat))) ++ sets := by
    simp only [List.append_assoc]
  rw [regroup]
  unfold Body.ofIpfix
  rw [Reader.bind_ok (Reader.take_append whole sets), fields]
  rfl

theorem ofPayload_message {header : Header} {sets : Bytes} (fits : header.Fits sets) :
    Body.ofPayload header.version (header.message sets) = .ok { domain := header.domain, sets } := by
  have size := header.length_message sets
  obtain ⟨version, domain, passed, passed_length⟩ := header
  cases version with
  | v9 =>
    have read := ofV9_written (Bytes.length_ofNat 2 9) passed_length domain sets
    simp only [Body.ofPayload, message, declared, Version.number, List.nil_append, StateT.run, read]
    rfl
  | ipfix =>
    have declares : Body.ipfixHeaderLength + sets.length < 65536 := fits rfl
    have read := ofIpfix_written (Bytes.length_ofNat 2 10) declares passed_length domain sets
    simp only [message, declared, Version.number] at size ⊢
    simp only [Body.ofPayload, StateT.run, read, size]
    have long : ¬ Body.ipfixHeaderLength + sets.length < Body.ipfixHeaderLength := by omega
    have whole : ¬ Body.ipfixHeaderLength + sets.length < Body.ipfixHeaderLength + sets.length :=
      Nat.lt_irrefl _
    show (if _ then _ else if _ then _ else _ : Except DecodeError Body) = _
    rw [if_neg long, if_neg whole, Nat.add_sub_cancel_left, List.take_length]
    rfl

/-- Decoding a message is decoding its sets in the `session` of its header. -/
theorem decode_message {header : Header} {sets : Bytes} (fits : header.Fits sets)
    (exporter : IpAddress) (timeReceived : UInt64) (store : Store) :
    decode exporter timeReceived (header.message sets) store
      = (header.session exporter timeReceived).sets sets store := by
  have number : ∀ rest, (Reader.u16 .header).run (Bytes.ofNat 2 header.version.number ++ rest)
      = .ok (.ofNat header.version.number, rest) := fun rest =>
    Reader.u16_ofNat .header (by cases header.version <;> decide) rest
  have body := ofPayload_message fits
  have decoded : decodeMessage header.version exporter timeReceived (header.message sets) store
      = (header.session exporter timeReceived).sets sets store := by
    simp only [decodeMessage, body]
    exact Prod.ext (Decoded.nothing_append _) rfl
  rw [← decoded]
  unfold decode
  rw [message, number]
  obtain ⟨version, domain, passed, passed_length⟩ := header
  cases version <;> rfl

end Header

end FlowCollector.Netflow
