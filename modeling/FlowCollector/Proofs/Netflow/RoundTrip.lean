import FlowCollector.Proofs.Netflow.Layout
import FlowCollector.Proofs.Store

/-!
# A template and the records sent by it

The main statement is the reading of a whole datagram: an exporter announces a layout, sends records of it
in the set behind, and each record comes out as one flow record that says what the record's own fields
say. Nothing is lost between two records and nothing leaks from one to the next, whatever the widths of
the fields are, however the values bring theirs and however the set is padded.

What a record should come to is `Row.flow`. It looks at the fields and the values side by side and knows
nothing of bytes.
-/

set_option autoImplicit false

namespace FlowCollector.Netflow

/-! ## What a record says -/

namespace Row

variable {fields : List FieldSpec}

/-- The fields that name a standard element, with their values, in the order of the template: the `standardFields` of
a row. -/
def standard (row : Row fields) : List (UInt16 × Bytes) :=
  (fields.zip row.values).filterMap fun (field, value) =>
    if field.enterprise = none then some (field.fieldType, value.bytes) else none

/-- A new record with the fields applied to it by `applyFields`, and the errors of those that could not be. -/
def filled (row : Row fields) (exporter : IpAddress) (timeReceived : UInt64) :
    FieldState × List DecodeError :=
  (FieldState.start exporter timeReceived).applyFields row.standard

/-- The flow record that a record comes to: what is `filled` in, and for a sampling rate its own if that is not zero,
else the one remembered for its sampler, else one. -/
def flow (row : Row fields) (exporter : IpAddress) (domain : UInt32) (timeReceived : UInt64)
    (store : Store) : FlowRecord :=
  let state := (row.filled exporter timeReceived).1
  let remembered := (store.rate? ⟨exporter, domain, state.samplerId.getD 0⟩).getD 1
  let rate := match state.samplingRate with
    | some own => if 0 < own then own else remembered
    | none => remembered
  { state.record with samplingRate := rate }.inferEtherType

end Row

/-! ## The two sets -/

namespace Session

theorem samplingRate_eq (session : Session) (state : FieldState) (store : Store) :
    session.samplingRate state store
      = match state.samplingRate with
        | some own =>
          if 0 < own then own
          else (store.rate? (session.samplerKey (state.samplerId.getD 0))).getD 1
        | none => (store.rate? (session.samplerKey (state.samplerId.getD 0))).getD 1 := by
  unfold samplingRate
  cases state.samplingRate with
  | none => rfl
  | some own => by_cases positive : 0 < own <;> simp [Option.filter, positive]

theorem set_templateSet (session : Session) (layout : Layout session.version)
    (fits : layout.templateSet.Fits) (store : Store) :
    session.set layout.templateSet store
      = (⟨[], [], 1⟩, store.upsert (session.key layout.id) layout.template) := by
  unfold set
  rw [if_pos (show layout.templateSet.id = session.version.templateSetId from rfl),
    layout.ofTemplateSet_templateSet fits]
  simp only [announceAll, Decoded.sequence, announce, if_pos layout.usable]
  rfl

theorem set_dataSet (session : Session) {raw : RawSet} (usable : leastDataSetId ≤ raw.id)
    (store : Store) : session.set raw store = session.dataSet raw.id raw.body store := by
  -- Both ids that announce something are reserved, and the id of a data set is not.
  have apart : ∀ id : UInt16, ¬ leastDataSetId ≤ id → raw.id ≠ id :=
    fun id reserved same => reserved (same ▸ usable)
  unfold set
  rw [if_neg (apart _ (by cases session.version <;> decide)),
    if_neg (apart _ (by cases session.version <;> decide)), if_pos usable]

/-- A record of a data template is one flow record, its `Row.flow`, and the store stays as it was. -/
theorem record_row (session : Session) {fields : List FieldSpec} (row : Row fields)
    (store : Store) :
    session.record ⟨.data, fields⟩ (row.values.map FieldValue.bytes) store
      = (⟨[row.flow session.exporter session.domain session.timeReceived store],
          (row.filled session.exporter session.timeReceived).2, 0⟩, store) := by
  have shown : DataRecord.standardFields session.version ⟨.data, fields⟩
      (row.values.map FieldValue.bytes) = row.standard := by
    -- Only a template of options hides fields, and what is not hidden is shown if it is standard.
    have nothing_hidden : DataRecord.hiddenFields session.version ⟨.data, fields⟩ = 0 := by
      cases session.version <;> rfl
    rw [DataRecord.standardFields, nothing_hidden, List.drop_zero, List.zip_map_right,
      List.filterMap_map]
    refine congrArg (fun shows => List.filterMap shows (fields.zip row.values)) (funext fun pair => ?_)
    obtain ⟨⟨fieldType, length, enterprise⟩, value⟩ := pair
    cases enterprise <;> rfl
  unfold record DataRecord.fill
  rw [shown]
  simp only [Template.isOptions, Bool.false_eq_true, if_false, samplingRate_eq]
  rfl

theorem sequence_rows (session : Session) {fields : List FieldSpec} (rows : List (Row fields))
    (store : Store) :
    Decoded.sequence (session.record ⟨.data, fields⟩)
        (rows.map fun row => row.values.map FieldValue.bytes) store
      = (⟨rows.map fun row => row.flow session.exporter session.domain session.timeReceived store,
          rows.flatMap fun row => (row.filled session.exporter session.timeReceived).2, 0⟩,
        store) := by
  induction rows with
  | nil => rfl
  | cons row others ih =>
    simp only [List.map_cons, Decoded.sequence, record_row, ih, List.flatMap_cons]
    rfl

theorem dataSet_rows (session : Session) (layout : Layout session.version)
    (rows : List (Row layout.fields)) {padding : Bytes}
    (short : padding.length < layout.template.leastRecordLength) {store : Store}
    (known : store.lookup? (session.key layout.id) = some layout.template) :
    session.dataSet layout.id (layout.dataSet rows padding).body store
      = (⟨rows.map fun row => row.flow session.exporter session.domain session.timeReceived store,
          rows.flatMap fun row => (row.filled session.exporter session.timeReceived).2, 0⟩,
        store) := by
  have positive : layout.template.leastRecordLength ≠ 0 := Nat.ne_of_gt layout.positive
  have records := session.sequence_rows rows store
  unfold dataSet
  rw [known]
  simp only [dataRecords, if_neg positive, layout.split_dataSet rows short]
  rw [Layout.template, records]
  exact Prod.ext (Decoded.append_nothing _) rfl

/-- A layout is announced and its records follow. They are read with the store that the announcement left, whose rates
are those of before, so each is its `Row.flow` over the store at the start. -/
theorem sequence_announced (session : Session) (layout : Layout session.version)
    (rows : List (Row layout.fields)) {padding : Bytes}
    (short : padding.length < layout.template.leastRecordLength)
    (fits : layout.templateSet.Fits) (store : Store) :
    Decoded.sequence session.set [layout.templateSet, layout.dataSet rows padding] store
      = (⟨rows.map fun row => row.flow session.exporter session.domain session.timeReceived store,
          rows.flatMap fun row => (row.filled session.exporter session.timeReceived).2, 1⟩,
        store.upsert (session.key layout.id) layout.template) := by
  have announced := session.set_templateSet layout fits store
  have known := store.lookup?_upsert_self (session.key layout.id) layout.template
  have records := session.dataSet_rows layout rows short known
  have usable : leastDataSetId ≤ (layout.dataSet rows padding).id := layout.usable
  have data := session.set_dataSet usable (store.upsert (session.key layout.id) layout.template)
  simp only [Decoded.sequence, announced, data.trans records, Decoded.append_nothing]
  rfl

end Session

/-! ## The datagram -/

/-- A datagram that announces a `Layout` and holds records of it gives one flow record for each, its `Row.flow`, in
order, and the template is known from then on. Errors arise only of fields in a width that their elements cannot have,
those of `Row.filled`. -/
theorem decode_announced_records (header : Header) (layout : Layout header.version)
    (rows : List (Row layout.fields)) (padding : Bytes) (exporter : IpAddress)
    (timeReceived : UInt64) (store : Store)
    (short : padding.length < layout.template.leastRecordLength)
    (templateFits : layout.templateSet.Fits) (dataFits : (layout.dataSet rows padding).Fits)
    (messageFits :
      header.Fits (layout.templateSet.encode ++ (layout.dataSet rows padding).encode)) :
    decode exporter timeReceived
        (header.message (layout.templateSet.encode ++ (layout.dataSet rows padding).encode)) store
      = (⟨rows.map fun row => row.flow exporter header.domain timeReceived store,
          rows.flatMap fun row => (row.filled exporter timeReceived).2, 1⟩,
        store.upsert ⟨exporter, header.domain, layout.id⟩ layout.template) := by
  have sets : layout.templateSet.encode ++ (layout.dataSet rows padding).encode
      = [layout.templateSet, layout.dataSet rows padding].flatMap RawSet.encode := by
    simp
  have fit : ∀ set ∈ [layout.templateSet, layout.dataSet rows padding], set.Fits := by
    intro set mem
    rcases List.mem_cons.1 mem with rfl | mem
    · exact templateFits
    · exact List.mem_singleton.1 mem ▸ dataFits
  rw [Header.decode_message messageFits, sets, Session.sets_written _ fit]
  exact (header.session exporter timeReceived).sequence_announced layout rows short templateFits store

/-- A record whose rate is its own and one whose rate is zero, so that the remembered one holds. The first
value of the interface name brings its width in one byte and the second in three, and the element of an
enterprise that shares its number with the source address is passed over. -/
theorem decode_announced_records_ipfix :
    let header : Header := ⟨.ipfix, 7, List.replicate 8 0, rfl⟩
    let layout : Layout .ipfix :=
      ⟨256, [⟨8, 4, none⟩, ⟨8, 4, some 9⟩, ⟨82, 0xffff, none⟩, ⟨34, 2, none⟩],
        by decide, by decide, by decide, by decide⟩
    let first : Row layout.fields :=
      ⟨[⟨[10, 0, 0, 1], false⟩, ⟨[1, 2, 3, 4], false⟩, ⟨[101], false⟩, ⟨[0, 100], false⟩], by decide⟩
    let second : Row layout.fields :=
      ⟨[⟨[10, 0, 0, 2], false⟩, ⟨[1, 2, 3, 4], false⟩, ⟨[101, 48], true⟩, ⟨[0, 0], false⟩], by decide⟩
    let padding : Bytes := [0, 0, 0]
    let sets := layout.templateSet.encode ++ (layout.dataSet [first, second] padding).encode
    let exporter : IpAddress := .v4 ⟨192, 0, 2, 1⟩
    let store := Store.empty.setRate ⟨exporter, 7, 0⟩ 512
    padding.length < layout.template.leastRecordLength
      ∧ layout.templateSet.Fits ∧ (layout.dataSet [first, second] padding).Fits ∧ header.Fits sets
      ∧ (first.flow exporter 7 0 store).samplingRate = 100
      ∧ (second.flow exporter 7 0 store).samplingRate = 512
      ∧ decode exporter 0 (header.message sets) store
        = (⟨[first.flow exporter 7 0 store, second.flow exporter 7 0 store], [], 1⟩,
          store.upsert ⟨exporter, 7, 256⟩ layout.template) := by
  intro header layout first second padding sets exporter store
  have short : padding.length < layout.template.leastRecordLength := by decide
  have templateFits : layout.templateSet.Fits := by decide
  have dataFits : (layout.dataSet [first, second] padding).Fits := by decide
  have messageFits : header.Fits sets := fun _ => by decide
  refine ⟨short, templateFits, dataFits, messageFits, by decide +kernel, by decide +kernel, ?_⟩
  exact decode_announced_records header layout [first, second] padding exporter 0 store short
    templateFits dataFits messageFits

end FlowCollector.Netflow
