import FlowCollector.Proofs.Netflow.Segmentation
import FlowCollector.Proofs.Netflow.Version5
import FlowCollector.Proofs.Persistence
import FlowCollector.Proofs.Sflow.Failures
import FlowCollector.Proofs.Sflow.Loops

/-!
# What a record costs

A sender that could have many records made of few bytes could flood whatever stands behind the collector. It cannot:
every flow record is charged to bytes that no other record is charged to. In formats of fixed layout these are the bytes
of the record. In the others a template says how long a record is, and an exporter may announce templates whose fields
are empty, but a record of no length at all is not read, so a byte is what it costs.

The headers in front come on top: that of the datagram, and that of at least one set or sample.
-/

set_option autoImplicit false

namespace FlowCollector

/-- A reader that `Takes` a front finds it written there, so what holds of `Spells` holds of it too. -/
theorem Reader.Takes.spells {α : Type} {reader : Reader α} {P : α → Bytes → Prop} (h : Takes reader P) :
    Spells reader P := by
  intro bytes value rest read
  obtain ⟨front, own, same, -⟩ := h _ _ _ read
  exact ⟨front, own, same⟩

/-- Parts that each give so many records at most, whatever memory they find, give as many as these together when
`sequence` runs them one behind the other. -/
theorem Decoded.length_records_sequence_le {α σ : Type} {part : α → σ → Decoded × σ} {most : α → Nat}
    (each : ∀ item memory, (part item memory).1.records.length ≤ most item) (items : List α) (memory : σ) :
    (sequence part items memory).1.records.length ≤ sumOf most items := by
  induction items generalizing memory with
  | nil => exact Nat.le_refl 0
  | cons item others ih =>
    show (_ ++ _ : List FlowRecord).length ≤ _
    rw [List.length_append]
    exact Nat.add_le_add (each item memory) (ih _)

/-! ## Messages of sets -/

namespace Netflow

/-- A record that `split` cuts out of a data set takes a byte or more. `Session.dataRecords` splits by no template
without a byte, so the condition holds wherever it does. -/
theorem DataRecord.sumOf_split_le {template : Template} (some_length : template.leastRecordLength ≠ 0) (body : Bytes) :
    sumOf (fun _ => 1) (split template body).1 ≤ body.length := by
  have byte : Reader.Spells (readValues template.fields) fun _ front => 1 ≤ front.length :=
    (takes_readValues template.fields).spells.mono fun _ _ own =>
      Nat.le_trans (Nat.one_le_iff_ne_zero.2 some_length) own.1
  exact byte.sumOf_many_le template.leastRecordLength body

/-- A set takes four bytes besides its body: its `RawSet.headerLength`. -/
theorem RawSet.spells_length : Reader.Spells read fun raw front => 4 + raw.body.length ≤ front.length := by
  refine spells_read.mono fun raw front own => ?_
  rw [own.2, length_encode]
  exact Nat.le_refl _

namespace Session

variable (session : Session)

theorem length_records_record_le (template : Template) (values : List Bytes) (store : Store) :
    (session.record template values store).1.records.length ≤ 1 := by
  unfold record
  dsimp only
  split
  · split <;> exact Nat.zero_le 1
  · exact Nat.le_refl 1

theorem length_records_dataRecords_le (template : Template) (body : Bytes) (store : Store) :
    (session.dataRecords template body store).1.records.length ≤ body.length := by
  unfold dataRecords
  split
  · exact Nat.zero_le _
  · rename_i some_length
    have records := Decoded.length_records_sequence_le (session.length_records_record_le template)
      (DataRecord.split template body).1 store
    have rows := DataRecord.sumOf_split_le some_length body
    rw [Decoded.records_append]
    simp only [Decoded.ofErrors, List.append_nil]
    exact Nat.le_trans records rows

theorem length_records_set_le (raw : RawSet) (store : Store) :
    (session.set raw store).1.records.length ≤ raw.body.length := by
  rcases session.set_cases raw with ⟨-, data⟩ | ⟨-, silent⟩
  · rw [data, dataSet]
    split
    · exact Nat.zero_le _
    · exact session.length_records_dataRecords_le _ _ store
  · rw [(silent store).1]
    exact Nat.zero_le _

/-- All of the records together are paid for by the bodies of the sets, and where there is one there is a set, whose
header is paid for as well. The store is whatever it is when `Session.sets` begins. -/
theorem length_records_sets_le (body : Bytes) (store : Store)
    (some_record : 1 ≤ (session.sets body store).1.records.length) :
    4 + (session.sets body store).1.records.length ≤ body.length := by
  have paid := RawSet.spells_length.sumOf_many_le RawSet.headerLength body
  have records : (session.sets body store).1.records.length
      = (Decoded.sequence session.set (RawSet.split body).1 store).1.records.length := by
    simp [sets, Decoded.ofErrors]
  have charged := Decoded.length_records_sequence_le session.length_records_set_le (RawSet.split body).1 store
  rw [records] at some_record ⊢
  rw [sumOf_const_add] at paid
  change 4 * (RawSet.split body).1.length + sumOf (fun raw => raw.body.length) (RawSet.split body).1 ≤ _ at paid
  have some_set : (RawSet.split body).1 ≠ [] := by
    intro none_there
    simp [none_there, Decoded.sequence, Decoded.nothing] at some_record
  have := List.length_pos_iff.2 some_set
  omega

end Session

end Netflow

/-! ## Samples -/

namespace Sflow

theorem Lead.length_encode_le {form : Form} (lead : Lead form) : 28 ≤ lead.encode.length := by
  cases lead <;> simp [encode, spell]

/-- A flow sample gives one record at most, and only if it has a lead, a count and a record about the packet. The
format and the length in front of it are not in its body, whence the eight bytes. -/
theorem FlowSample.length_records_decode_le (form : Form) (exporter : IpAddress) (timeReceived : UInt64) (body : Bytes) :
    48 * (decode form exporter timeReceived body).toDecoded.records.length ≤ 8 + body.length := by
  unfold decode
  cases read : (SampleHeader.read form).run body with
  | error error => exact Nat.zero_le _
  | ok found =>
    obtain ⟨header, rest⟩ := found
    have blocks := spells_blockHeader.sumOf_upTo_le header.recordCount.toNat rest
    dsimp only
    split
    · exact Nat.zero_le _
    · split
      · rename_i about
        obtain ⟨front, ⟨lead, -, rfl⟩, rfl⟩ := Lead.spells_header form _ _ _ read
        have leads := lead.length_encode_le
        obtain ⟨first, among, -⟩ := List.any_eq_true.1 about
        obtain ⟨before, behind, split⟩ := List.append_of_mem among
        rw [split, sumOf_append, sumOf] at blocks
        simp only [Result.toDecoded, Option.toList_some, List.length_singleton, List.length_append, Bytes.length_ofNat]
        omega
      · exact Nat.zero_le _

theorem RawSample.length_records_decode_le (exporter : IpAddress) (timeReceived : UInt64) (sample : RawSample) :
    48 * (sample.decode exporter timeReceived).records.length ≤ 8 + sample.body.length := by
  cases sample with
  | framed format body =>
    simp only [decode, RawSample.body]
    split
    · exact FlowSample.length_records_decode_le _ exporter timeReceived body
    · exact Nat.zero_le _
  | overlong declared available => exact Nat.zero_le _

/-- Each sample of a datagram pays for its record by `FlowSample.length_records_decode_le`, and where there is one the
header of the datagram was read. -/
theorem length_records_decode_le (exporter : IpAddress) (timeReceived : UInt64) (payload : Bytes)
    (some_record : 1 ≤ (decode exporter timeReceived payload).records.length) :
    24 + 48 * (decode exporter timeReceived payload).records.length ≤ payload.length := by
  have paid : Reader.Spells RawSample.read fun sample front =>
      48 * (sample.decode exporter timeReceived).records.length ≤ front.length := by
    refine spells_sample.mono fun sample front own => ?_
    obtain ⟨lead, long, rfl⟩ := own
    have body := sample.length_records_decode_le exporter timeReceived
    rw [List.length_append]
    omega
  have records : (decode exporter timeReceived payload).records.length
      = sumOf (fun sample => (RawSample.decode exporter timeReceived sample).records.length) (row payload).1 := by
    rw [decode_eq_row, Decoded.records_foldr, List.flatMap_map]
    simp only [Decoded.ofErrors, List.append_nil]
    exact length_flatMap_eq_sumOf _ _
  rw [records] at some_record ⊢
  unfold row at some_record ⊢
  cases header : readHeader.run payload with
  | error error =>
    rw [header] at some_record
    exact absurd some_record (Nat.not_succ_le_zero 0)
  | ok found =>
    obtain ⟨count, rest⟩ := found
    have before := spells_readHeader.length_add_le header
    have samples := paid.sumOf_upTo_le count.toNat rest
    rw [sumOf_mul_left] at samples
    dsimp only
    omega

end Sflow

/-! ## Datagrams -/

namespace Netflow

theorem Version5.length_records_decode_le (exporter : IpAddress) (timeReceived : UInt64) (payload : Bytes)
    (some_record : 1 ≤ (Version5.decode exporter timeReceived payload).records.length) :
    24 + 48 * (Version5.decode exporter timeReceived payload).records.length ≤ payload.length := by
  by_cases enough : headerLength ≤ payload.length
  · rw [decode_eq_range exporter timeReceived enough]
    simp only [List.length_map, List.length_range]
    have promised := Nat.min_le_right (payload.numberAt 2 2) (room payload)
    have fits := Nat.div_mul_le_self (payload.length - headerLength) recordLength
    change room payload * 48 ≤ payload.length - 24 at fits
    change 24 ≤ payload.length at enough
    omega
  · have short : Header.read.run payload = .error _ :=
      Reader.bind_error (Reader.take_short _ (Nat.not_le.1 enough))
    unfold Version5.decode at some_record
    rw [short] at some_record
    exact absurd some_record (Nat.not_succ_le_zero 0)

/-- The length of the header of a message of sets, `Body.v9HeaderLength` or `Body.ipfixHeaderLength`. -/
def Version.headerLength : Version → Nat
  | .v9 => Body.v9HeaderLength
  | .ipfix => Body.ipfixHeaderLength

theorem Version.length_setsOf_le (version : Version) (payload : Bytes) :
    (version.setsOf payload).length ≤ payload.length - version.headerLength := by
  cases version with
  | v9 => exact Nat.le_of_eq (List.length_drop ..)
  | ipfix =>
    have front := List.length_take_le' (Bytes.toNat ((payload.drop 2).take 2)) payload
    rw [Version.setsOf, List.length_drop]
    exact Nat.sub_le_sub_right front 16

end Netflow

open Netflow in
/-- Whatever templates the store holds, each record that `Packet.decode` makes of a datagram has bytes of its own
there: 48 in the formats of fixed layout, and one at least in the others. Where there is a record, the headers in
front of it, of 24 or of 20 bytes with that of a set, are there too. -/
theorem Packet.records_paid_for (packet : Packet) (store : Store)
    (some_record : 1 ≤ (packet.decode store).1.records.length) :
    let n := (packet.decode store).1.records.length
    (packet.protocol = .sflow ∨ packet.isVersion5) ∧ 24 + 48 * n ≤ packet.payload.length
      ∨ packet.version? = some .v9 ∧ 24 + n ≤ packet.payload.length
      ∨ packet.version? = some .ipfix ∧ 20 + n ≤ packet.payload.length := by
  rcases packet.decode_cases with ⟨session, body, message, decoded⟩ | ⟨-, sflow, decoded⟩ | ⟨-, five, decoded⟩
    | ⟨-, error, decoded⟩
  all_goals rw [decoded] at some_record ⊢
  · intro n
    obtain ⟨named, read⟩ := Packet.ofPayload_of_message? message
    have paid : 4 + n ≤ body.sets.length := session.length_records_sets_le body.sets store some_record
    have inside := session.version.length_setsOf_le packet.payload
    rw [Body.sets_of_ofPayload read] at paid
    have total := Nat.le_trans paid inside
    cases version : session.version with
    | v9 =>
      rw [version] at named total
      change 4 + n ≤ packet.payload.length - 20 at total
      exact .inr (.inl ⟨named, by omega⟩)
    | ipfix =>
      rw [version] at named total
      change 4 + n ≤ packet.payload.length - 16 at total
      exact .inr (.inr ⟨named, by omega⟩)
  · exact .inl ⟨.inl sflow, Sflow.length_records_decode_le _ _ _ some_record⟩
  · exact .inl ⟨.inr five, Version5.length_records_decode_le _ _ _ some_record⟩
  · exact absurd some_record (Nat.not_succ_le_zero 0)

open Netflow in
/-- No datagram can do more with its bytes than these two. One has a set of five bytes, for a template whose first field is
empty and whose second takes a byte; the other a sample with a record about the packet of which nothing is there. -/
theorem Packet.records_paid_for_nothing_spare :
    let exporter : IpAddress := .v4 ⟨192, 0, 2, 1⟩
    let header : Header := ⟨.v9, 7, List.replicate 14 0, rfl⟩
    let template : Template := ⟨.data, [⟨1, 0, none⟩, ⟨4, 1, none⟩]⟩
    let store := (∅ : Store).upsert ⟨exporter, 7, 256⟩ template
    let message : Packet := ⟨.netflow, exporter, 0, header.message (RawSet.encode ⟨256, [6, 17, 1, 6, 17]⟩)⟩
    let sample : Bytes := List.replicate 28 0 ++ Bytes.ofNat 4 1 ++ (Bytes.ofNat 4 1 ++ Bytes.ofNat 4 0)
    let datagram : Packet := ⟨.sflow, exporter, 0, Bytes.ofNat 4 5 ++ List.replicate 16 0 ++ Bytes.ofNat 4 1
      ++ (Bytes.ofNat 4 1 ++ Bytes.ofNat 4 sample.length ++ sample)⟩
    (message.decode store).1.records.length = 5 ∧ message.payload.length = 24 + 5
      ∧ ((message.protocol = .sflow ∨ message.isVersion5) ∧ 24 + 48 * 5 ≤ message.payload.length
        ∨ message.version? = some .v9 ∧ 24 + 5 ≤ message.payload.length
        ∨ message.version? = some .ipfix ∧ 20 + 5 ≤ message.payload.length)
      ∧ (datagram.decode store).1.records.length = 1 ∧ datagram.payload.length = 24 + 48 := by
  intro exporter header template store message sample datagram
  have five : (message.decode store).1.records.length = 5 := by decide +kernel
  have paid := message.records_paid_for store (by rw [five]; decide)
  rw [five] at paid
  exact ⟨five, by decide +kernel, paid, by decide +kernel, by decide +kernel⟩

end FlowCollector
