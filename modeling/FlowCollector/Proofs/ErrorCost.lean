import FlowCollector.Proofs.Amplification
import FlowCollector.Proofs.Netflow.Unusable
import Mathlib.Algebra.Order.Ring.Unbundled.Basic
import Mathlib.Tactic.Ring

/-!
# What an error costs

What is dropped of a datagram is told of, and as a rule bytes are dropped with it, so that the errors are no more than
the bytes. A template can get around that. It may give a known field no bytes at all, no record can make anything of
such a field, and each record says so. The field costs the four bytes that announced it, and not a byte more in any
of the records.

Errors of empty fields are therefore bounded by the product of what is spent on templates and what is spent on data, and
all others by the bytes themselves.
-/

set_option autoImplicit false

namespace FlowCollector

/-- True of the error of a field that has no bytes: the only kind of error that costs nothing where it occurs. -/
def DecodeError.ofEmptyField : DecodeError → Bool
  | unsupportedField _ length => length == 0
  | _ => false

theorem DecodeError.not_ofEmptyField {error : DecodeError} (other : error.reason ≠ .unsupportedField) :
    error.ofEmptyField = false := by
  cases error with
  | unsupportedField => exact absurd rfl other
  | malformedLength | unknownTemplate | truncated | unsupportedVersion => rfl

namespace Decoded

/-- How many fields without bytes were told of, by `DecodeError.ofEmptyField`. -/
def emptyFields (decoded : Decoded) : Nat := decoded.errors.countP (·.ofEmptyField)

/-- How many other things were told of. With `emptyFields` these are all errors. -/
def otherErrors (decoded : Decoded) : Nat := decoded.errors.countP (!·.ofEmptyField)

variable {decoded : Decoded}

theorem otherErrors_le : decoded.otherErrors ≤ decoded.errors.length := List.countP_le_length

theorem emptyFields_eq_zero (others : ∀ error ∈ decoded.errors, error.reason ≠ .unsupportedField) :
    decoded.emptyFields = 0 := by
  rw [emptyFields, List.countP_eq_zero]
  intro error mem
  simp [DecodeError.not_ofEmptyField (others error mem)]

theorem otherErrors_append (first second : Decoded) :
    (first ++ second).otherErrors = first.otherErrors + second.otherErrors := List.countP_append

theorem emptyFields_append (first second : Decoded) :
    (first ++ second).emptyFields = first.emptyFields + second.emptyFields := List.countP_append

/-- What ends a row is one error, if there is any, and it is no field. -/
theorem otherErrors_ending_le (ending : Option DecodeError) : (ofErrors ending.toList).otherErrors ≤ 1 :=
  Nat.le_trans otherErrors_le Option.length_toList_le

/-- If every part tells of so much at most, whatever memory it finds that is as the others leave it, then `sequence`
tells of as much as the parts together. -/
theorem countP_errors_sequence_le {α σ : Type} {part : α → σ → Decoded × σ} {P : σ → Prop} {most : α → Nat}
    {tells : DecodeError → Bool} {items : List α}
    (kept : ∀ item ∈ items, ∀ memory, P memory → P (part item memory).2)
    (each : ∀ item memory, P memory → (part item memory).1.errors.countP tells ≤ most item) {memory : σ}
    (start : P memory) : (sequence part items memory).1.errors.countP tells ≤ sumOf most items := by
  induction items generalizing memory with
  | nil => exact Nat.le_refl 0
  | cons item others ih =>
    have next := kept item List.mem_cons_self memory start
    have rest := ih (fun other mem => kept other (List.mem_cons_of_mem item mem)) next
    show (_ ++ _ : List DecodeError).countP tells ≤ _
    rw [List.countP_append]
    exact Nat.add_le_add (each item memory start) rest

end Decoded

namespace Netflow

/-! ## Records -/

namespace DataRecord

theorem spells_readValue (field : FieldSpec) :
    Reader.Spells (readValue field) fun value front => value.length ≤ front.length := by
  have behind {lead : Bytes} (length : Nat) :
      Reader.Spells (Reader.take .dataRecord length) fun value back => value.length ≤ (lead ++ back).length := by
    refine (Reader.Spells.take _ _).mono fun value back own => ?_
    rw [List.length_append, own.2]
    exact Nat.le_add_left ..
  unfold readValue
  split
  · exact takes_readLength.anything.spells.bind fun length _ _ => behind length
  · exact Reader.Spells.bind (Q := fun _ _ => True) (.pure trivial) fun length _ _ => behind length

/-- The values that `readValues` gives stand there one behind the other. -/
theorem spells_readValues (fields : List FieldSpec) :
    Reader.Spells (readValues fields) fun values front => sumOf List.length values ≤ front.length := by
  induction fields with
  | nil => exact .pure (Nat.le_refl 0)
  | cons field others ih =>
    refine (spells_readValue field).bind fun _ front own => ih.bind fun _ back behind => .pure ?_
    rw [List.append_nil, List.length_append, sumOf]
    exact Nat.add_le_add own behind

variable (version : Version) (template : Template) (values : List Bytes)

theorem length_standardFields_le : (standardFields version template values).length ≤ template.fields.length := by
  refine Nat.le_trans (List.length_filterMap_le ..) ?_
  rw [List.length_drop, List.length_zip]
  omega

/-- The bytes of the `standardFields` are bytes of the record: each is one of its values. -/
theorem sumOf_standardFields_le :
    sumOf (fun field : UInt16 × Bytes => field.2.length) (standardFields version template values)
      ≤ sumOf List.length values := by
  let size (pair : FieldSpec × Bytes) : Nat := pair.2.length
  have shown : sumOf (fun field : UInt16 × Bytes => field.2.length) (standardFields version template values)
      ≤ sumOf size ((template.fields.zip values).drop (hiddenFields version template)) := by
    refine sumOf_filterMap_le _ fun pair made isMade => ?_
    obtain ⟨⟨fieldType, length, enterprise⟩, value⟩ := pair
    cases enterprise with
    | none =>
      obtain rfl := Option.some.inj isMade
      exact Nat.le_refl _
    | some => cases isMade
  calc _ ≤ _ := shown
    _ ≤ sumOf size (template.fields.zip values) := sumOf_le_of_sublist size (List.drop_sublist ..)
    _ ≤ _ := sumOf_zip_le List.length template.fields values

end DataRecord

namespace Reading

variable (reading : Reading)

/-- A field that is `Field.Unsupported` is told of, and no other, in the order of the fields. -/
theorem fieldErrors_eq :
    reading.fieldErrors
      = ((DataRecord.standardFields reading.session.version reading.template reading.values).filter
          fun field : Field => field.Unsupported).map Field.error := by
  rw [fieldErrors, DataRecord.fill, FieldState.applyFields_eq]

theorem length_fieldErrors_le : reading.fieldErrors.length ≤ reading.template.fields.length := by
  rw [fieldErrors_eq, List.length_map]
  exact Nat.le_trans (List.length_filter_le ..) (DataRecord.length_standardFields_le ..)

/-- A field that has bytes and is told of pays with these, so such errors are no more than the bytes of the record. -/
theorem countP_fieldErrors_le :
    reading.fieldErrors.countP (!·.ofEmptyField) ≤ sumOf List.length reading.values := by
  have bytes : ∀ field : Field, (!field.error.ofEmptyField) → 1 ≤ field.2.length := by
    intro field nonempty
    simpa [Field.error, DecodeError.ofEmptyField, Nat.one_le_iff_ne_zero] using nonempty
  rw [fieldErrors_eq, List.countP_map]
  calc _ ≤ _ := countP_le_sumOf _ bytes
    _ ≤ _ := sumOf_le_of_sublist _ List.filter_sublist
    _ ≤ _ := DataRecord.sumOf_standardFields_le ..

end Reading

/-! ## What is spent on templates -/

/-- A template has four bytes for each field in the announcement that is `Written` there, in a set that is none of
data. -/
theorem Announcement.Written.fields_le {version : Version} {set id : UInt16} {template : Template} {front : Bytes}
    (written : Written version set (.define id template) front) :
    4 * template.fields.length ≤ front.length ∧ ¬ leastDataSetId ≤ set := by
  cases written with
  | @data _ _ fields =>
    have long := FieldSpec.length_flatMap_encode_ge fields
    refine ⟨?_, by cases version <;> decide⟩
    simp only [List.length_append, Bytes.length_ofNat]
    omega
  | @optionsV9 _ _ _ fields | @optionsIpfix _ _ fields =>
    have long := FieldSpec.length_flatMap_encode_ge fields
    refine ⟨?_, by decide⟩
    simp only [List.length_append, Bytes.length_ofNat]
    omega

namespace RawSet

/-- The bytes that a set has for announcing templates: those of its body if its number is below `leastDataSetId`. -/
def spentOnTemplates (raw : RawSet) : Nat := if leastDataSetId ≤ raw.id then 0 else raw.body.length

/-- The bytes that a set has for data: those of its body if `spentOnTemplates` has none. -/
def spentOnData (raw : RawSet) : Nat := if leastDataSetId ≤ raw.id then raw.body.length else 0

theorem Holds.fields_le {version : Version} {raw : RawSet} {id : UInt16} {template : Template}
    (held : raw.Holds version (.define id template)) : 4 * template.fields.length ≤ raw.spentOnTemplates := by
  obtain ⟨_, front, record, rest, -, written, body⟩ := held
  have long := written.fields_le
  have inside := congrArg List.length body
  rw [List.length_append, List.length_append] at inside
  rw [spentOnTemplates, if_neg long.2]
  omega

theorem spells_spent : Reader.Spells read fun raw front => raw.spentOnTemplates + raw.spentOnData ≤ front.length := by
  refine spells_length.mono fun raw front long => ?_
  unfold spentOnTemplates spentOnData
  split <;> omega

theorem reason_ne_of_split {body : Bytes} {error : DecodeError} (ended : (split body).2 = some error) :
    error.reason ≠ .unsupportedField := by
  have short (place : Place) (count : Nat) :
      Reader.FailsOn (Reader.take place count) fun _ error => error.reason ≠ .unsupportedField :=
    .take place count fun _ _ => by simp [DecodeError.reason]
  have word (place : Place) : Reader.FailsOn (Reader.u16 place) fun _ error => error.reason ≠ .unsupportedField :=
    (short place 2).bind_const fun _ => .pure _
  have set : Reader.FailsOn read fun _ error => error.reason ≠ .unsupportedField := by
    refine (word _).bind_const fun id => (word _).bind_const fun length => .remaining fun bytes error failed => ?_
    split at failed
    · obtain rfl := Except.error.inj failed
      simp [DecodeError.reason]
    · exact (short _ _).bind_const (fun _ => .pure _) _ _ failed
  exact set.many_const _ _ ended

end RawSet

end Netflow

/-- No template in the store has more fields than this. Decoding keeps such a bound (`holdsFew_set`) if all
announcements do. -/
def Store.HoldsFew (store : Store) (most : Nat) : Prop :=
  ∀ key template, store.lookup? key = some template → template.fields.length ≤ most

theorem Store.holdsFew_empty {most : Nat} : (∅ : Store).HoldsFew most := by
  intro key template found
  cases found

namespace Netflow

namespace Session

variable (session : Session)

theorem otherErrors_record_le (template : Template) (values : List Bytes) (store : Store) :
    (session.record template values store).1.otherErrors ≤ sumOf List.length values := by
  rw [Decoded.otherErrors, errors_record]
  exact Reading.countP_fieldErrors_le ⟨session, template, values⟩

theorem emptyFields_record_le (template : Template) (values : List Bytes) (store : Store) :
    (session.record template values store).1.emptyFields ≤ template.fields.length := by
  rw [Decoded.emptyFields, errors_record]
  exact Nat.le_trans List.countP_le_length (Reading.length_fieldErrors_le ⟨session, template, values⟩)

/-! ## Sets -/

theorem otherErrors_dataRecords_le (template : Template) (body : Bytes) (store : Store) :
    (session.dataRecords template body store).1.otherErrors ≤ body.length + 1 := by
  unfold dataRecords
  split
  · exact Nat.le_add_left ..
  · have records : (Decoded.sequence (session.record template) (DataRecord.split template body).1 store).1.otherErrors
        ≤ sumOf (sumOf List.length) (DataRecord.split template body).1 :=
      Decoded.countP_errors_sequence_le (P := fun _ => True) (fun _ _ _ _ => trivial)
        (fun values memory _ => session.otherErrors_record_le template values memory) trivial
    have paid := (DataRecord.spells_readValues template.fields).sumOf_many_le template.leastRecordLength body
    dsimp only
    rw [Decoded.otherErrors_append]
    exact Nat.add_le_add (Nat.le_trans records paid) (Decoded.otherErrors_ending_le _)

/-- Each record tells of as many `emptyFields` as its template has fields at most, and records are no more than
bytes. -/
theorem emptyFields_dataRecords_le (template : Template) (body : Bytes) (store : Store) :
    (session.dataRecords template body store).1.emptyFields ≤ template.fields.length * body.length := by
  unfold dataRecords
  split
  · exact Nat.zero_le _
  · rename_i some_length
    have records : (Decoded.sequence (session.record template) (DataRecord.split template body).1 store).1.emptyFields
        ≤ sumOf (fun _ => template.fields.length * 1) (DataRecord.split template body).1 :=
      Decoded.countP_errors_sequence_le (P := fun _ => True) (fun _ _ _ _ => trivial)
        (fun values memory _ => Nat.mul_one _ ▸ session.emptyFields_record_le template values memory) trivial
    have rows := DataRecord.sumOf_split_le some_length body
    have ending : (Decoded.ofErrors (DataRecord.split template body).2.toList).emptyFields = 0 := by
      refine Decoded.emptyFields_eq_zero fun error mem => ?_
      rw [DataRecord.reason_of_split (Option.mem_toList.1 mem)]
      decide
    rw [sumOf_mul_left] at records
    dsimp only
    rw [Decoded.emptyFields_append, ending, Nat.add_zero]
    exact Nat.le_trans records (Nat.mul_le_mul_left _ rows)

/-- A set tells of one thing at most, and that is no field, unless it is a data set with a template that the store
knows. -/
theorem errors_set_cases (raw : RawSet) (store : Store) :
    ((session.set raw store).1.errors.length ≤ 1
        ∧ ∀ error ∈ (session.set raw store).1.errors, error.reason ≠ .unsupportedField)
      ∨ leastDataSetId ≤ raw.id ∧ ∃ template, store.lookup? (session.key raw.id) = some template
        ∧ session.set raw store = session.dataRecords template raw.body store := by
  by_cases own : raw.id = session.version.templateSetId ∨ raw.id = session.version.optionsTemplateSetId
  · obtain ⟨ending, told, malformed⟩ := exists_errors_set_eq own raw.body store
    refine .inl ⟨?_, fun error mem => ?_⟩
    · rw [told]
      cases ending <;> simp
    · rw [told] at mem
      rcases malformed error (Option.mem_toList.1 mem) with reason | reason
      all_goals
        rw [reason]
        decide
  by_cases data : leastDataSetId ≤ raw.id
  · cases found : store.lookup? (session.key raw.id) with
    | none =>
      have unknown : session.Unknown (raw, store) := ⟨data, found⟩
      rw [show session.set raw store = _ from set_of_unknown unknown]
      exact .inl ⟨Nat.le_refl 1, by simp [Decoded.ofError, Decoded.ofErrors, DecodeError.reason]⟩
    | some template =>
      refine .inr ⟨data, template, rfl, ?_⟩
      rw [set_dataSet session data, dataSet, found]
  · obtain ⟨notTemplates, notOptions⟩ := not_or.1 own
    have reserved : session.Reserved (raw, store) := ⟨data, notTemplates, notOptions⟩
    rw [show session.set raw store = _ from set_of_reserved reserved]
    exact .inl ⟨Nat.zero_le 1, by simp [Decoded.nothing]⟩

theorem otherErrors_set_le (raw : RawSet) (store : Store) :
    (session.set raw store).1.otherErrors ≤ 4 + raw.body.length := by
  rcases session.errors_set_cases raw store with ⟨one, -⟩ | ⟨-, template, -, same⟩
  · have := Nat.le_trans Decoded.otherErrors_le one
    omega
  · have := session.otherErrors_dataRecords_le template raw.body store
    rw [same]
    omega

theorem emptyFields_set_le (raw : RawSet) {store : Store} {most : Nat} (few : store.HoldsFew most) :
    (session.set raw store).1.emptyFields ≤ most * raw.spentOnData := by
  rcases session.errors_set_cases raw store with ⟨-, others⟩ | ⟨data, template, found, same⟩
  · rw [Decoded.emptyFields_eq_zero others]
    exact Nat.zero_le _
  · have told := session.emptyFields_dataRecords_le template raw.body store
    rw [same, RawSet.spentOnData, if_pos data]
    exact Nat.le_trans told (Nat.mul_le_mul_right _ (few _ _ found))

/-- A template that a set announces has four bytes there for each of its fields, so what is `spentOnTemplates` bounds
it. -/
theorem holdsFew_set {raw : RawSet} {store : Store} {most : Nat} (spent : raw.spentOnTemplates / 4 ≤ most)
    (few : store.HoldsFew most) : (session.set raw store).2.HoldsFew most := by
  have follows : Store.Follows (raw.Holds session.version) store (session.set raw store).2 :=
    session.follows_set (fun _ held => held) store
  intro key template found
  by_cases before : store.lookup? key = some template
  · exact few key template before
  · have held := follows.changed key template found before
    have paid := held.fields_le
    omega

theorem otherErrors_sets_le (body : Bytes) (store : Store) :
    (session.sets body store).1.otherErrors ≤ body.length + 1 := by
  have row : (Decoded.sequence session.set (RawSet.split body).1 store).1.otherErrors
      ≤ sumOf (fun raw => 4 + raw.body.length) (RawSet.split body).1 :=
    Decoded.countP_errors_sequence_le (P := fun _ => True) (fun _ _ _ _ => trivial)
      (fun raw memory _ => session.otherErrors_set_le raw memory) trivial
  have whole := RawSet.spells_length.sumOf_many_le RawSet.headerLength body
  unfold sets
  dsimp only
  rw [Decoded.otherErrors_append]
  exact Nat.add_le_add (Nat.le_trans row whole) (Decoded.otherErrors_ending_le _)

/-- What is `spentOnTemplates` and what is `spentOnData` are both bytes of the message, so the product is no more than
a square of half of them. -/
theorem emptyFields_sets_le (body : Bytes) : 16 * (session.sets body ∅).1.emptyFields ≤ body.length * body.length := by
  let raw := (RawSet.split body).1
  let templates := sumOf RawSet.spentOnTemplates raw
  let data := sumOf RawSet.spentOnData raw
  have kept : ∀ set ∈ raw, ∀ store : Store, store.HoldsFew (templates / 4) →
      (session.set set store).2.HoldsFew (templates / 4) := by
    intro set mem store few
    have own := sumOf_le_of_sublist RawSet.spentOnTemplates (List.singleton_sublist.2 mem)
    rw [sumOf_singleton] at own
    exact session.holdsFew_set (Nat.div_le_div_right own) few
  have row : (Decoded.sequence session.set raw ∅).1.emptyFields
      ≤ sumOf (fun set => templates / 4 * set.spentOnData) raw :=
    Decoded.countP_errors_sequence_le kept (fun set _ few => session.emptyFields_set_le set few) Store.holdsFew_empty
  have ending : (Decoded.ofErrors (RawSet.split body).2.toList).emptyFields = 0 :=
    Decoded.emptyFields_eq_zero fun error mem => RawSet.reason_ne_of_split (Option.mem_toList.1 mem)
  have whole : (session.sets body ∅).1.emptyFields ≤ templates / 4 * data := by
    unfold sets
    dsimp only
    rw [Decoded.emptyFields_append, ending, Nat.add_zero]
    rwa [sumOf_mul_left] at row
  have spent : templates + data ≤ body.length := by
    have := RawSet.spells_spent.sumOf_many_le RawSet.headerLength body
    rwa [sumOf_add] at this
  have apart : 4 * (templates * data) ≤ (templates + data) * (templates + data) := by
    have := four_mul_le_sq_add templates data
    rwa [sq, Nat.mul_assoc] at this
  calc 16 * (session.sets body ∅).1.emptyFields
    _ ≤ 16 * (templates / 4 * data) := Nat.mul_le_mul_left _ whole
    _ = 4 * (4 * (templates / 4) * data) := by ring
    _ ≤ 4 * (templates * data) := Nat.mul_le_mul_left _ (Nat.mul_le_mul_right _ (Nat.mul_div_le templates 4))
    _ ≤ (templates + data) * (templates + data) := apart
    _ ≤ body.length * body.length := Nat.mul_self_le_mul_self spent

end Session

/-- A message that has a `Body` has a header in front of it, and the body is told of as cut off or not at all. -/
theorem Body.header_of_ofPayload {version : Version} {payload : Bytes} {body : Body}
    (read : ofPayload version payload = .ok body) :
    version.headerLength ≤ payload.length
      ∧ ∀ error, body.cutOff = some error → error.reason = .truncated := by
  cases version with
  | v9 =>
    cases taken : ofV9.run payload with
    | error error =>
      simp only [ofPayload, taken] at read
      cases read
    | ok found =>
      simp only [ofPayload, taken] at read
      obtain rfl := Except.ok.inj read
      refine ⟨(eq_of_ofV9_ok taken).1, fun error cut => ?_⟩
      cases cut
  | ipfix =>
    cases taken : ofIpfix.run payload with
    | error error =>
      simp only [ofPayload, taken] at read
      cases read
    | ok found =>
      refine ⟨(eq_of_ofIpfix_ok taken).1, fun error cut => ?_⟩
      rw [ofPayload_ipfix taken] at read
      split at read
      · cases read
      · split at read
        all_goals obtain rfl := Except.ok.inj read
        · obtain rfl := Option.some.inj cut
          rfl
        · cases cut

theorem Version5.errors_decode_le (exporter : IpAddress) (timeReceived : UInt64) (payload : Bytes) :
    (decode exporter timeReceived payload).errors.length ≤ 1
      ∧ ∀ error ∈ (decode exporter timeReceived payload).errors, error.reason ≠ .unsupportedField := by
  by_cases enough : headerLength ≤ payload.length
  · rw [decode_eq_range exporter timeReceived enough]
    dsimp only
    split
    · exact ⟨Nat.zero_le 1, fun _ mem => absurd mem List.not_mem_nil⟩
    · exact ⟨Nat.le_refl 1, by simp [DecodeError.reason]⟩
  · have short : Header.read.run payload = .error _ :=
      Reader.bind_error (Reader.take_short _ (Nat.not_le.1 enough))
    unfold decode
    rw [short]
    exact ⟨Nat.le_refl 1, by simp [Decoded.ofError, Decoded.ofErrors, DecodeError.reason]⟩

end Netflow

namespace Sflow

/-- Each record of a sample has its format and its length in front, whether it can be read or not, so there are no
more `failures` than bytes, and one for the end. -/
theorem FlowSample.length_failures_le (form : Form) (body : Bytes) : (failures form body).length ≤ body.length + 1 := by
  unfold failures
  cases read : (SampleHeader.read form).run body with
  | error error => exact Nat.le_add_left ..
  | ok found =>
    obtain ⟨header, rest⟩ := found
    have inside := ((Lead.spells_header form).isSuffix read).length_le
    have onward : Reader.Onward Block.read := Loop.onward_item .records
    have tried := Reader.tries_le onward header.recordCount.toNat rest
    have failed := List.length_filterMap_le Block.failure? (Reader.upTo header.recordCount.toNat Block.read rest).1
    unfold Reader.tries at tried
    simp only [List.length_append, List.length_map]
    omega

theorem RawSample.length_failures_le (sample : RawSample) : sample.failures.length ≤ 8 + sample.body.length := by
  cases sample with
  | framed format body =>
    simp only [failures, RawSample.body]
    cases form? format with
    | none => exact Nat.zero_le _
    | some form =>
      have := FlowSample.length_failures_le form body
      dsimp only
      omega
  | overlong declared available => exact Nat.le_add_left ..

theorem length_errors_decode_le (exporter : IpAddress) (timeReceived : UInt64) (payload : Bytes) :
    (decode exporter timeReceived payload).errors.length ≤ payload.length + 1 := by
  have paid : Reader.Spells RawSample.read fun sample front => sample.failures.length ≤ front.length := by
    refine spells_sample.mono fun sample front own => ?_
    obtain ⟨lead, long, rfl⟩ := own
    have := sample.length_failures_le
    rw [List.length_append]
    omega
  have samples : sumOf (fun sample => sample.failures.length) (row payload).1 ≤ payload.length := by
    unfold row
    cases header : readHeader.run payload with
    | error error => exact Nat.zero_le _
    | ok found =>
      have before := spells_readHeader.length_add_le header
      exact Nat.le_trans (paid.sumOf_upTo_le _ _) (by omega)
  have ending := Option.length_toList_le (o := (row payload).2)
  rw [errors_decode, List.length_append, length_flatMap_eq_sumOf]
  simp only [List.length_map]
  omega

/-- Nothing in a sample is a field of a template, so `emptyFields` of sFlow are none. -/
theorem reason_ne_of_mem_decode {exporter : IpAddress} {timeReceived : UInt64} {payload : Bytes} {error : DecodeError}
    (mem : error ∈ (decode exporter timeReceived payload).errors) : error.reason ≠ .unsupportedField := by
  rw [errors_decode, List.mem_append, Option.mem_toList] at mem
  rcases mem with own | ended
  · obtain ⟨sample, -, told⟩ := List.mem_flatMap.1 own
    obtain ⟨failure, failed, rfl⟩ := List.mem_map.1 told
    rw [RawSample.reason_of_mem_failures failed]
    decide
  · rcases endsRow_row ended with reason | reason | reason
    all_goals
      rw [reason]
      decide

end Sflow

/-! ## Datagrams -/

namespace Packet

open Netflow

/-- A datagram that is no message of sets (`message?`) has no template, and no field of one: its errors are no more
than its bytes and one. -/
theorem errors_of_not_message {packet : Packet} (other : packet.message? = none) (store : Store) :
    (packet.decode store).1.errors.length ≤ packet.payload.length + 1
      ∧ (packet.decode store).1.emptyFields = 0 := by
  rcases packet.decode_kinds with ⟨_, _, message, -⟩ | ⟨-, -, decoded⟩ | ⟨-, -, decoded⟩ | ⟨-, error, header, decoded⟩
  · rw [other] at message
    cases message
  all_goals rw [decoded]
  · exact ⟨Sflow.length_errors_decode_le .., Decoded.emptyFields_eq_zero fun _ => Sflow.reason_ne_of_mem_decode⟩
  · obtain ⟨one, others⟩ := Version5.errors_decode_le packet.exporter packet.timeReceived packet.payload
    exact ⟨Nat.le_add_left_of_le one, Decoded.emptyFields_eq_zero others⟩
  · refine ⟨Nat.le_add_left .., Decoded.emptyFields_eq_zero fun own mem => ?_⟩
    rwa [List.mem_singleton.1 mem]

theorem errors_of_message {packet : Packet} (some_message : packet.message? ≠ none) :
    (packet.decode ∅).1.otherErrors ≤ packet.payload.length + 1
      ∧ 16 * (packet.decode ∅).1.emptyFields ≤ packet.payload.length * packet.payload.length := by
  rcases packet.decode_kinds with ⟨session, body, message, decoded⟩ | ⟨other, -⟩ | ⟨other, -⟩ | ⟨other, -⟩
  case inr.inl | inr.inr.inl | inr.inr.inr => exact absurd other some_message
  obtain ⟨-, read⟩ := Packet.ofPayload_of_message? message
  obtain ⟨header, cut⟩ := Body.header_of_ofPayload read
  have inside : body.sets.length < packet.payload.length := by
    have sets := session.version.length_setsOf_le packet.payload
    have positive : 1 ≤ session.version.headerLength := by cases session.version <;> decide
    rw [Body.sets_of_ofPayload read]
    omega
  rw [decoded]
  constructor
  · have sets := session.otherErrors_sets_le body.sets ∅
    have ending := Decoded.otherErrors_ending_le body.cutOff
    rw [Decoded.otherErrors_append]
    omega
  · have ending : (Decoded.ofErrors body.cutOff.toList).emptyFields = 0 := by
      refine Decoded.emptyFields_eq_zero fun error mem => ?_
      rw [cut error (Option.mem_toList.1 mem)]
      decide
    rw [Decoded.emptyFields_append, ending, Nat.zero_add]
    exact Nat.le_trans (session.emptyFields_sets_le body.sets) (Nat.mul_self_le_mul_self (Nat.le_of_lt inside))

/-- What `Packet.decode` can tell of a datagram where no template is known yet. The errors that are
`DecodeError.ofEmptyField` are no more than a sixteenth of the square of its length, and all others no more than its
length and one. Only a datagram that can be read as a message of sets (`message?`) has errors of the first kind. -/
theorem errors_paid_for (packet : Packet) :
    let came := (packet.decode ∅).1
    let length := packet.payload.length
    came.errors.countP (!·.ofEmptyField) ≤ length + 1
      ∧ 16 * came.errors.countP (·.ofEmptyField) ≤ length * length
      ∧ (packet.message? = none → came.errors.length ≤ length + 1) := by
  intro came length
  by_cases other : packet.message? = none
  · obtain ⟨most, no_field⟩ := errors_of_not_message other ∅
    refine ⟨Nat.le_trans Decoded.otherErrors_le most, ?_, fun _ => most⟩
    show 16 * came.emptyFields ≤ _
    rw [no_field]
    exact Nat.zero_le _
  · obtain ⟨others, fields⟩ := errors_of_message other
    exact ⟨others, fields, fun none_there => absurd none_there other⟩

/-- A datagram of 112 bytes, with a template of fifteen fields that are known and empty and one of a byte, and with
sixteen records. Each of the records is told of fifteen times. -/
theorem more_errors_than_bytes :
    let fields : List FieldSpec := List.replicate 15 ⟨1, 0, none⟩ ++ [⟨4, 1, none⟩]
    let template : RawSet := ⟨0, Bytes.ofNat 2 256 ++ (Bytes.ofNat 2 16 ++ fields.flatMap FieldSpec.encode)⟩
    let data : RawSet := ⟨256, List.replicate 16 17⟩
    let header : Header := ⟨.v9, 7, [0, 2] ++ List.replicate 12 0, rfl⟩
    let packet : Packet :=
      ⟨.netflow, .v4 ⟨192, 0, 2, 10⟩, 1700000000, header.message (template.encode ++ data.encode)⟩
    packet.payload.length = 112 ∧ (packet.decode ∅).1.errors.length = 240
      ∧ ¬ (packet.decode ∅).1.errors.length ≤ packet.payload.length + 1 := by
  decide +kernel

/-- A message with two empty fields in each of four records, and a sample with three records of which nothing is
there. -/
theorem errors_paid_for_either_format :
    let fields : List FieldSpec := [⟨1, 0, none⟩, ⟨8, 0, none⟩, ⟨4, 1, none⟩]
    let template : RawSet := ⟨0, Bytes.ofNat 2 256 ++ (Bytes.ofNat 2 3 ++ fields.flatMap FieldSpec.encode)⟩
    let data : RawSet := ⟨256, [6, 17, 1, 6]⟩
    let header : Header := ⟨.v9, 7, List.replicate 14 0, rfl⟩
    let message : Packet := ⟨.netflow, .v4 ⟨192, 0, 2, 10⟩, 0, header.message (template.encode ++ data.encode)⟩
    let nothing : Bytes := Bytes.ofNat 4 1 ++ Bytes.ofNat 4 0
    let sample : Bytes := List.replicate 28 0 ++ Bytes.ofNat 4 3 ++ (nothing ++ nothing ++ nothing)
    let datagram : Packet := ⟨.sflow, .v4 ⟨192, 0, 2, 10⟩, 0, Bytes.ofNat 4 5 ++ Bytes.ofNat 4 1 ++ List.replicate 16 0
      ++ Bytes.ofNat 4 1 ++ (Bytes.ofNat 4 1 ++ Bytes.ofNat 4 sample.length ++ sample)⟩
    (message.decode ∅).1.errors.countP (·.ofEmptyField) = 8
      ∧ 16 * 8 ≤ message.payload.length * message.payload.length
      ∧ datagram.message? = none ∧ (datagram.decode ∅).1.errors.length = 3
      ∧ 3 ≤ datagram.payload.length + 1 := by
  intro fields template data header message nothing sample datagram
  have eight : (message.decode ∅).1.errors.countP (·.ofEmptyField) = 8 := by decide +kernel
  have three : (datagram.decode ∅).1.errors.length = 3 := by decide +kernel
  have unnamed : datagram.message? = none := message?_of_version? (by decide +kernel)
  obtain ⟨-, fields, -⟩ := message.errors_paid_for
  obtain ⟨-, -, all⟩ := datagram.errors_paid_for
  rw [eight] at fields
  have few := all unnamed
  rw [three] at few
  exact ⟨eight, fields, unnamed, three, few⟩

end Packet

end FlowCollector
