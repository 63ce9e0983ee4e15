import FlowCollector.Proofs.Netflow.SamplingRate
import FlowCollector.Proofs.Reader.Taking

/-!
# Where the records of a data set end

A data set does not say how many records it has, nor where one ends. Its template says how long a record is at least,
and as long as so many bytes are left there may be another. `Segments` is what a set falls into: complete records, and
then padding or a record that is cut off.

A record that is cut off may be cut anywhere, behind fields that were read and would have said something. It is not a
record then, and all that comes of it is one error.
-/

set_option autoImplicit false

namespace FlowCollector.Netflow

/-! ## How long a record is -/

namespace DataRecord

theorem takes_readLength : Reader.Takes readLength fun _ front => 1 ≤ front.length := by
  refine (Reader.Takes.u8 _).bind fun short front one => ?_
  split
  · refine (Reader.Takes.u16 _).bind fun _ back two => .pure ?_
    simp only [List.length_append]
    omega
  · refine .pure ?_
    simp only [List.length_append]
    omega

theorem takes_readValue (field : FieldSpec) :
    Reader.Takes (readValue field) fun _ front =>
      field.leastLength ≤ front.length ∧ (field.isVariable = false → front.length = field.leastLength) := by
  unfold readValue FieldSpec.leastLength
  cases field.isVariable with
  | true =>
    refine takes_readLength.bind fun length front one => ?_
    refine (Reader.Takes.take _ _).mono fun _ back _ => ⟨?_, by simp⟩
    rw [if_pos rfl, List.length_append]
    omega
  | false =>
    refine Reader.Takes.bind (.pure (P := fun length front => length = field.length.toNat ∧ front = []) ⟨rfl, rfl⟩)
      fun length front known => ?_
    obtain ⟨rfl, rfl⟩ := known
    exact (Reader.Takes.take _ _).mono fun _ back width => ⟨Nat.le_of_eq width.symm, fun _ => width⟩

theorem takes_readValues (fields : List FieldSpec) :
    Reader.Takes (readValues fields) fun _ front =>
      sumOf FieldSpec.leastLength fields ≤ front.length
        ∧ ((∀ field ∈ fields, field.isVariable = false) → front.length = sumOf FieldSpec.leastLength fields) := by
  induction fields with
  | nil => exact .pure ⟨Nat.le_refl 0, fun _ => rfl⟩
  | cons field others ih =>
    refine (takes_readValue field).bind fun _ front own => ih.bind fun _ back behind => .pure ?_
    rw [List.append_nil, List.length_append, sumOf]
    refine ⟨Nat.add_le_add own.1 behind.1, fun fixed => ?_⟩
    rw [own.2 (fixed field List.mem_cons_self),
      behind.2 fun other mem => fixed other (List.mem_cons_of_mem field mem)]

theorem failsShort_readValues (fields : List FieldSpec) : Reader.FailsShort (readValues fields) := by
  have length : Reader.FailsShort readLength := by
    refine ((Reader.FailsShort.take _ _).bind fun _ => .pure _).bind fun short => ?_
    split
    · exact ((Reader.FailsShort.take _ _).bind fun _ => .pure _).bind fun _ => .pure _
    · exact .pure _
  have value (field : FieldSpec) : Reader.FailsShort (readValue field) := by
    unfold readValue
    split
    · exact length.bind fun _ => .take _ _
    · exact (Reader.FailsShort.pure _).bind fun _ => .take _ _
  induction fields with
  | nil => exact .pure []
  | cons field others ih => exact (value field).bind fun _ => ih.bind fun _ => .pure _

/-- A record of fixed widths is there when its bytes are: `readValues` fails for want of bytes only. -/
theorem readValues_of_fixed {fields : List FieldSpec} (fixed : ∀ field ∈ fields, field.isVariable = false)
    {bytes : Bytes} (enough : sumOf FieldSpec.leastLength fields ≤ bytes.length) :
    ∃ values rest, readValues fields bytes = .ok (values, rest) := by
  induction fields generalizing bytes with
  | nil => exact ⟨[], bytes, rfl⟩
  | cons field others ih =>
    have own : field.isVariable = false := fixed field List.mem_cons_self
    have width : field.leastLength = field.length.toNat := by simp [FieldSpec.leastLength, own]
    rw [sumOf, width] at enough
    have first : readValue field bytes
        = .ok (bytes.take field.length.toNat, bytes.drop field.length.toNat) := by
      unfold readValue
      rw [own]
      exact if_pos (Nat.le_trans (Nat.le_add_right ..) enough)
    have left : sumOf FieldSpec.leastLength others ≤ (bytes.drop field.length.toNat).length := by
      rw [List.length_drop]
      omega
    obtain ⟨values, rest, read⟩ := ih (fun other mem => fixed other (List.mem_cons_of_mem field mem)) left
    refine ⟨bytes.take field.length.toNat :: values, rest, ?_⟩
    rw [readValues, Reader.bind_ok first, Reader.bind_ok read]
    rfl

end DataRecord

/-! ## What a set falls into -/

/-- A complete record of a data set: the bytes it takes and the values that `readValues` finds in them. -/
structure Piece where
  bytes : Bytes
  values : List Bytes
  deriving DecidableEq, Repr

/-- What the body of a data set falls into, and the error that it ends with, if any. `exists_split` shows that
`DataRecord.split` finds it. -/
inductive Segments (template : Template) : Bytes → List Piece → Option DecodeError → Prop
  /-- Too little is left for any record (`leastRecordLength`), and that is padding. -/
  | padding {rest : Bytes} (short : rest.length < template.leastRecordLength) : Segments template rest [] none
  /-- There is enough for the least record, but not for the one that stands there, whose values bring their own
  width. -/
  | cutOff {rest : Bytes} {place : Place} {needed available : Nat}
    (enough : template.leastRecordLength ≤ rest.length)
    (failed : DataRecord.readValues template.fields rest = .error (.truncated place needed available)) :
    Segments template rest [] (some (.truncated place needed available))
  /-- A record is read from bytes of its own, and alike whatever stands behind them: `readValues` leaves nothing of
  those. -/
  | record {piece : Piece} {rest : Bytes} {pieces : List Piece} {ending : Option DecodeError}
    (long : template.leastRecordLength ≤ piece.bytes.length)
    (read : ∀ behind,
      DataRecord.readValues template.fields (piece.bytes ++ behind) = .ok (piece.values, behind))
    (others : Segments template rest pieces ending) :
    Segments template (piece.bytes ++ rest) (piece :: pieces) ending

namespace Segments

variable {template : Template} {body : Bytes} {pieces : List Piece} {ending : Option DecodeError}

/-- Cutting a set by `DataRecord.split` finds what it falls into. Every record takes some bytes, so none is read for
ever. -/
theorem exists_split (positive : 1 ≤ template.leastRecordLength) (body : Bytes) :
    ∃ pieces, Segments template body pieces (DataRecord.split template body).2
      ∧ (DataRecord.split template body).1 = pieces.map Piece.values := by
  unfold DataRecord.split
  fun_induction Reader.many template.leastRecordLength (DataRecord.readValues template.fields) body with
  | case1 body short => exact ⟨[], .padding short, rfl⟩
  | case2 body enough error failed =>
    obtain ⟨place, needed, available, rfl⟩ := DataRecord.failsShort_readValues _ _ _ failed
    exact ⟨[], .cutOff (Nat.not_lt.1 enough) failed, rfl⟩
  | case3 body enough values rest read progress others ending run ih =>
    obtain ⟨front, ⟨long, -⟩, rfl, alike⟩ := DataRecord.takes_readValues _ _ _ _ read
    obtain ⟨pieces, segments, cut⟩ := ih
    rw [run] at segments cut
    let piece : Piece := ⟨front, values⟩
    have long : template.leastRecordLength ≤ piece.bytes.length := long
    exact ⟨piece :: pieces, .record long alike segments, congrArg (values :: ·) cut⟩
  | case4 body enough values rest read stuck =>
    -- A record that took nothing would be shorter than the least one.
    obtain ⟨front, ⟨long, -⟩, rfl, -⟩ := DataRecord.takes_readValues _ _ _ _ read
    have some_taken : 1 ≤ front.length := Nat.le_trans positive long
    rw [List.length_append] at stuck
    omega

/-- A record of fixed widths takes as many bytes as any other, the template's `leastRecordLength`. -/
theorem length_bytes (fixed : ∀ field ∈ template.fields, field.isVariable = false) {piece : Piece}
    (read : DataRecord.readValues template.fields piece.bytes = .ok (piece.values, [])) :
    piece.bytes.length = template.leastRecordLength := by
  obtain ⟨front, ⟨-, width⟩, same, -⟩ := DataRecord.takes_readValues _ _ _ _ read
  rw [same, List.append_nil]
  exact width fixed

/-- Records of fixed widths stand at multiples of their length, and there is no other ending than
`Segments.padding`. -/
theorem of_fixed (segments : Segments template body pieces ending) (positive : 1 ≤ template.leastRecordLength)
    (fixed : ∀ field ∈ template.fields, field.isVariable = false) :
    ending = none ∧ pieces.length = body.length / template.leastRecordLength
      ∧ ∀ k piece, pieces[k]? = some piece →
          piece.bytes = (body.drop (k * template.leastRecordLength)).take template.leastRecordLength
            ∧ DataRecord.readValues template.fields piece.bytes = .ok (piece.values, []) := by
  induction segments with
  | padding short => exact ⟨rfl, (Nat.div_eq_of_lt short).symm, by simp⟩
  | cutOff enough failed =>
    obtain ⟨values, rest, read⟩ := DataRecord.readValues_of_fixed fixed enough
    rw [read] at failed
    cases failed
  | @record first rest others ending long read _ ih =>
    -- The first record is as wide as each behind it, so those stand one width further on than in the rest alone.
    obtain ⟨ended, count, placed⟩ := ih
    have alone := read []
    rw [List.append_nil] at alone
    have width : first.bytes.length = template.leastRecordLength := length_bytes fixed alone
    refine ⟨ended, ?_, ?_⟩
    · rw [List.length_cons, List.length_append, width, count, Nat.add_div_left _ positive]
    · intro k piece found
      cases k with
      | zero =>
        obtain rfl := Option.some.inj found
        refine ⟨?_, alone⟩
        rw [Nat.zero_mul, List.drop_zero, ← width, List.take_left]
      | succ k =>
        have shifted : (k + 1) * template.leastRecordLength
            = first.bytes.length + k * template.leastRecordLength := by
          rw [width, Nat.succ_mul, Nat.add_comm]
        rw [shifted, List.drop_length_add_append]
        exact placed k piece found

end Segments

/-! ## What a record adds -/

namespace Reading

/-- The errors of the fields that could not be used, when the reading's fields are applied. -/
def fieldErrors (reading : Reading) : List DecodeError :=
  (DataRecord.fill reading.session.version reading.template
    (.start reading.session.exporter reading.session.timeReceived) reading.values).2

/-- The flow record that a record of a data template is. Where it says no rate, that of its sampler holds, by
`Session.samplingRate`. -/
def message (reading : Reading) (store : Store) : FlowRecord :=
  let rate := reading.rate?.getD ((store.rate? reading.samplerKey).getD 1)
  { reading.filled.record with samplingRate := rate }.inferEtherType

/-- The store that remembers the rate in a record of an options template, if there is one in it, as `Session.record`
leaves it. -/
def learned (store : Store) (reading : Reading) : Store :=
  match reading.rate? with
  | some rate => store.setRate reading.samplerKey rate
  | none => store

variable (reading : Reading)

theorem record_eq_message (data : reading.template.isOptions = false) (store : Store) :
    reading.session.record reading.template reading.values store
      = (⟨[reading.message store], reading.fieldErrors, 0⟩, store) := by
  rw [Session.record, data, message, ← reading.samplingRate_of_store]
  rfl

theorem record_eq_learned (options : reading.template.isOptions = true) (store : Store) :
    reading.session.record reading.template reading.values store
      = (.ofErrors reading.fieldErrors, learned store reading) := by
  obtain ⟨rate, sampler⟩ := reading.filled_sampling
  unfold filled at rate sampler
  simp only [Session.record, options, if_true, rate, sampler, learned]
  cases reading.rate? <;> rfl

end Reading

namespace Session

variable (session : Session) {template : Template}

theorem sequence_messages (data : template.isOptions = false) (rows : List (List Bytes)) (store : Store) :
    let readings := rows.map (Reading.mk session template)
    Decoded.sequence (session.record template) rows store
      = (⟨readings.map (·.message store), readings.flatMap Reading.fieldErrors, 0⟩, store) := by
  induction rows with
  | nil => rfl
  | cons values others ih =>
    have own := Reading.record_eq_message ⟨session, template, values⟩ data store
    dsimp only at own ih
    simp only [Decoded.sequence, own, ih]
    rfl

/-- Each record sees the rates that the records in front of it left: the stores are a fold of `learned`. -/
theorem sequence_learned (options : template.isOptions = true) (rows : List (List Bytes)) (store : Store) :
    let readings := rows.map (Reading.mk session template)
    Decoded.sequence (session.record template) rows store
      = (.ofErrors (readings.flatMap Reading.fieldErrors), readings.foldl Reading.learned store) := by
  induction rows generalizing store with
  | nil => rfl
  | cons values others ih =>
    have own := Reading.record_eq_learned ⟨session, template, values⟩ options store
    dsimp only at own ih
    simp only [Decoded.sequence, own, ih]
    rfl

end Session

/-! ## The whole set -/

/-- A data set is read by `Session.dataSet` as complete records one behind the other, and ends with padding or with a
record that is cut off: `Segments` says how its body falls apart. Each complete record adds its `Reading.fieldErrors`,
and either its `Reading.message` or its rate. A record that is cut off adds the one error that says so. Where all
fields are of fixed width no record is cut off, and each stands at a multiple of the record's length and is read from
those bytes alone. -/
theorem dataSet_segments (session : Session) (id : UInt16) (template : Template) (store : Store) (body : Bytes)
    (known : store.lookup? (session.key id) = some template) (positive : 1 ≤ template.leastRecordLength) :
    ∃ pieces ending, Segments template body pieces ending
      ∧ (let readings := pieces.map fun piece => Reading.mk session template piece.values
        let errors := readings.flatMap Reading.fieldErrors ++ ending.toList
        session.dataSet id body store
          = if template.isOptions then (⟨[], errors, 0⟩, readings.foldl Reading.learned store)
            else (⟨readings.map (·.message store), errors, 0⟩, store))
      ∧ ((∀ field ∈ template.fields, field.isVariable = false) →
        ending = none ∧ pieces.length = body.length / template.leastRecordLength
          ∧ ∀ k piece, pieces[k]? = some piece →
              piece.bytes = (body.drop (k * template.leastRecordLength)).take template.leastRecordLength
                ∧ DataRecord.readValues template.fields piece.bytes = .ok (piece.values, [])) := by
  obtain ⟨pieces, segments, cut⟩ := Segments.exists_split positive body
  refine ⟨pieces, (DataRecord.split template body).2, segments, ?_, segments.of_fixed positive⟩
  have some_length : template.leastRecordLength ≠ 0 := by omega
  have rows : (DataRecord.split template body).1.map (Reading.mk session template)
      = pieces.map fun piece => Reading.mk session template piece.values := by
    rw [cut, List.map_map]
    rfl
  intro readings errors
  have read : session.dataSet id body store
      = ((Decoded.sequence (session.record template) (DataRecord.split template body).1 store).1
          ++ .ofErrors (DataRecord.split template body).2.toList,
        (Decoded.sequence (session.record template) (DataRecord.split template body).1 store).2) := by
    unfold Session.dataSet
    rw [known]
    dsimp only
    rw [Session.dataRecords, if_neg some_length]
  rw [read]
  cases kind : template.isOptions with
  | true =>
    have learned := session.sequence_learned kind (DataRecord.split template body).1 store
    dsimp only at learned
    rw [learned, rows]
    rfl
  | false =>
    have messages := session.sequence_messages kind (DataRecord.split template body).1 store
    dsimp only at messages
    rw [messages, rows]
    exact Prod.ext (Decoded.ext (List.append_nil _) rfl rfl) rfl

/-- A value of five bytes of which one is there: two records come of the set, and nothing of the third, not even of its
port. Where both fields are two bytes wide, the last byte of nine is padding. -/
theorem dataSet_segments_cut_off :
    let session : Session := ⟨.ipfix, .v4 ⟨192, 0, 2, 1⟩, 7, 0⟩
    let named : Template := ⟨.data, [⟨7, 2, none⟩, ⟨82, FieldSpec.variableLength, none⟩]⟩
    let ports : Template := ⟨.data, [⟨7, 2, none⟩, ⟨11, 2, none⟩]⟩
    let store := ((∅ : Store).upsert (session.key 256) named).upsert (session.key 257) ports
    let body : Bytes := [0, 80, 1, 97, 1, 187, 2, 97, 98, 0, 22, 5, 99]
    let came := (session.dataSet 256 body store).1
    store.lookup? (session.key 256) = some named ∧ store.lookup? (session.key 257) = some ports
      ∧ came.records.map FlowRecord.sourcePort = [80, 443] ∧ came.errors = [.truncated .dataRecord 5 1]
      ∧ (∃ pieces ending, Segments named body pieces ending ∧ pieces.length = 2)
      ∧ ∃ pieces, Segments ports [0, 80, 1, 187, 0, 22, 0, 23, 0] pieces none ∧ pieces.length = 2 := by
  intro session named ports store body came
  have knownNamed : store.lookup? (session.key 256) = some named := by decide +kernel
  have knownPorts : store.lookup? (session.key 257) = some ports := by decide +kernel
  have cameRecords : came.records.map FlowRecord.sourcePort = [80, 443] := by decide +kernel
  refine ⟨knownNamed, knownPorts, cameRecords, by decide +kernel, ?_, ?_⟩
  · obtain ⟨pieces, ending, segments, read, -⟩ := dataSet_segments session 256 named store body knownNamed (by decide)
    refine ⟨pieces, ending, segments, ?_⟩
    have count := congrArg List.length cameRecords
    rw [List.length_map, show came = _ from congrArg Prod.fst read] at count
    simpa [named, Template.isOptions] using count
  · obtain ⟨pieces, ending, segments, -, fixed⟩ :=
      dataSet_segments session 257 ports store [0, 80, 1, 187, 0, 22, 0, 23, 0] knownPorts (by decide)
    obtain ⟨rfl, count, -⟩ := fixed (by decide)
    exact ⟨pieces, segments, count.trans (by decide)⟩

end FlowCollector.Netflow
