import FlowCollector.Proofs.Netflow.Framing

/-!
# Layouts and the records written by them

A `Layout` is what an exporter may announce: a list of fields that can be written in its version, under a
number that data sets can have. A `Row` is a record that fits it, and it says of each value that brings
its own width in which of the two forms it does: the short form is not a matter of the width alone,
since an exporter may spend three bytes where one would do.

Each thing is written here as the exporter writes it, and read back by the reader that the collector
uses. Every statement has arbitrary bytes behind what was written.
-/

set_option autoImplicit false

namespace FlowCollector

open Netflow

/-! ## The mark of an enterprise -/

namespace Netflow.Announcement

theorem and_enterpriseBit {number : UInt16} (h : number < enterpriseBit) :
    number &&& enterpriseBit = 0 := by
  have below : number.toNat < 2 ^ 15 := h
  apply UInt16.toNat_inj.1
  rw [UInt16.toNat_and]
  show number.toNat &&& 2 ^ 15 = 0
  apply Nat.eq_of_testBit_eq
  intro i
  rw [Nat.testBit_and, Nat.testBit_two_pow, Nat.zero_testBit]
  by_cases top : 15 = i
  · subst top
    rw [Nat.testBit_lt_two_pow below, Bool.false_and]
  · simp [top]

theorem or_enterpriseBit_and (number : UInt16) :
    (number ||| enterpriseBit) &&& enterpriseBit = enterpriseBit := by
  apply UInt16.toBitVec_inj.1
  ext i hi
  simp only [UInt16.toBitVec_and, UInt16.toBitVec_or, BitVec.getElem_and, BitVec.getElem_or]
  cases number.toBitVec[i] <;> simp

theorem or_enterpriseBit_and_not {number : UInt16} (h : number < enterpriseBit) :
    (number ||| enterpriseBit) &&& ~~~enterpriseBit = number := by
  have clear := congrArg UInt16.toBitVec (and_enterpriseBit h)
  apply UInt16.toBitVec_inj.1
  ext i hi
  have bit : (number.toBitVec[i] && enterpriseBit.toBitVec[i]) = false := by
    simpa using congrArg (fun word : BitVec 16 => word[i]) clear
  simp only [UInt16.toBitVec_and, UInt16.toBitVec_or, UInt16.toBitVec_not, BitVec.getElem_and,
    BitVec.getElem_or, BitVec.getElem_not]
  revert bit
  cases number.toBitVec[i] <;> cases enterpriseBit.toBitVec[i] <;> decide

end Netflow.Announcement

/-! ## Fields -/

namespace FieldSpec

/-- What a field must be for a version to announce it. Version 9 has neither enterprises nor values that bring their
own width; IPFIX takes the first bit of a number for the mark of an enterprise. -/
def Announced (field : FieldSpec) : Version → Prop
  | .v9 => field.enterprise = none ∧ field.length ≠ variableLength
  | .ipfix => field.fieldType < Announcement.enterpriseBit

instance (field : FieldSpec) (version : Version) : Decidable (field.Announced version) := by
  cases version <;> unfold Announced <;> infer_instance

/-- A field as it stands in a template, where `Announcement.readField` reads it. -/
def encode (field : FieldSpec) : Bytes :=
  match field.enterprise with
  | none => Bytes.ofNat 2 field.fieldType.toNat ++ Bytes.ofNat 2 field.length.toNat
  | some enterprise =>
    Bytes.ofNat 2 (field.fieldType ||| Announcement.enterpriseBit).toNat
      ++ (Bytes.ofNat 2 field.length.toNat ++ Bytes.ofNat 4 enterprise.toNat)

theorem four_le_length_encode (field : FieldSpec) : 4 ≤ field.encode.length := by
  unfold encode
  split <;> simp

theorem length_flatMap_encode_ge (fields : List FieldSpec) :
    fields.length * 4 ≤ (fields.flatMap encode).length := by
  induction fields with
  | nil => simp
  | cons field others ih =>
    have := field.four_le_length_encode
    simp only [List.flatMap_cons, List.length_append, List.length_cons]
    omega

theorem readField_encode {version : Version} {field : FieldSpec}
    (announced : field.Announced version) (rest : Bytes) :
    Announcement.readField version (field.encode ++ rest) = .ok (field, rest) := by
  obtain ⟨fieldType, length, enterprise⟩ := field
  unfold Announcement.readField
  cases version with
  | v9 =>
    obtain ⟨rfl, fixed⟩ := announced
    simp only [encode, List.append_assoc]
    rw [Reader.bind_ok (Reader.u16_toNat _ fieldType _), Reader.bind_ok (Reader.u16_toNat _ length _),
      if_neg fixed]
    rfl
  | ipfix =>
    have number : fieldType < Announcement.enterpriseBit := announced
    cases enterprise with
    | none =>
      simp only [encode, List.append_assoc]
      rw [Reader.bind_ok (Reader.u16_toNat _ fieldType _),
        Reader.bind_ok (Reader.u16_toNat _ length _),
        if_neg (not_not_intro (Announcement.and_enterpriseBit number))]
      rfl
    | some owner =>
      have marked : (fieldType ||| Announcement.enterpriseBit) &&& Announcement.enterpriseBit ≠ 0 := by
        rw [Announcement.or_enterpriseBit_and]
        decide
      simp only [encode, List.append_assoc]
      rw [Reader.bind_ok (Reader.u16_toNat _ (fieldType ||| Announcement.enterpriseBit) _),
        Reader.bind_ok (Reader.u16_toNat _ length _), if_pos marked,
        Reader.bind_ok (Reader.u32_toNat _ owner _), Announcement.or_enterpriseBit_and_not number]
      rfl

theorem readFields_encode {version : Version} {fields : List FieldSpec}
    (announced : ∀ field ∈ fields, field.Announced version) (rest : Bytes) :
    Announcement.readFields version fields.length (fields.flatMap encode ++ rest)
      = .ok (fields, rest) := by
  have enough : ¬ (fields.flatMap encode ++ rest).length < fields.length * 4 := by
    have := length_flatMap_encode_ge fields
    rw [List.length_append]
    omega
  unfold Announcement.readFields
  rw [Reader.bind_ok (Reader.remaining_apply _), if_neg enough]
  exact Reader.times_written (fun field mem => readField_encode (announced field mem)) rest

end FieldSpec

/-! ## Values -/

namespace Netflow

/-- The value of a field, and how it is sent. How matters only where the field leaves the width to the value. -/
structure FieldValue where
  bytes : Bytes
  /-- True of a value that brings its width in three bytes, which is allowed of a short one too. -/
  long : Bool := false
  deriving DecidableEq, Repr

namespace FieldValue

/-- True when a value can be sent for a field: it has the field's width, or brings one of its own that can be written
in the form it has. -/
def Fits (value : FieldValue) (field : FieldSpec) : Prop :=
  if field.isVariable then value.bytes.length < if value.long then 65536 else 255
  else value.bytes.length = field.length.toNat

instance (value : FieldValue) (field : FieldSpec) : Decidable (value.Fits field) := by
  unfold Fits
  infer_instance

/-- The width that a value brings, in one byte or in three as `long` says. -/
def encodeLength (value : FieldValue) : Bytes :=
  if value.long then 255 :: Bytes.ofNat 2 value.bytes.length else [.ofNat value.bytes.length]

/-- A value as it stands in a record, with `encodeLength` in front where the field leaves the width to it. -/
def encode (value : FieldValue) (field : FieldSpec) : Bytes :=
  if field.isVariable then value.encodeLength ++ value.bytes else value.bytes

theorem readLength_encodeLength {value : FieldValue}
    (fits : value.bytes.length < if value.long then 65536 else 255) (rest : Bytes) :
    DataRecord.readLength (value.encodeLength ++ rest) = .ok (value.bytes.length, rest) := by
  obtain ⟨bytes, long⟩ := value
  unfold DataRecord.readLength encodeLength
  cases long with
  | true =>
    have fits : bytes.length < 65536 := fits
    simp only [if_true, List.cons_append]
    rw [Reader.bind_ok (Reader.u8_cons _ 255 _), if_pos rfl,
      Reader.bind_ok (Reader.u16_ofNat _ fits _), UInt16.toNat_ofNat_of_lt' fits]
    rfl
  | false =>
    have fits : bytes.length < 255 := fits
    have width : (UInt8.ofNat bytes.length).toNat = bytes.length :=
      UInt8.toNat_ofNat_of_lt' (Nat.lt_succ_of_lt fits)
    have short : UInt8.ofNat bytes.length ≠ 255 := by
      intro same
      have := congrArg UInt8.toNat same
      rw [width] at this
      exact absurd this (Nat.ne_of_lt fits)
    simp only [Bool.false_eq_true, if_false, List.singleton_append]
    rw [Reader.bind_ok (Reader.u8_cons _ _ _), if_neg short, width]
    rfl

theorem readValue_encode {value : FieldValue} {field : FieldSpec} (fits : value.Fits field)
    (rest : Bytes) :
    DataRecord.readValue field (value.encode field ++ rest) = .ok (value.bytes, rest) := by
  unfold DataRecord.readValue encode
  by_cases own : field.isVariable
  · rw [Fits, if_pos own] at fits
    rw [if_pos own, if_pos own, List.append_assoc, Reader.bind_ok (readLength_encodeLength fits _)]
    exact Reader.take_append rfl rest
  · rw [Fits, if_neg own] at fits
    rw [if_neg own, if_neg own, Reader.bind_ok (Reader.pure_apply _ _)]
    exact Reader.take_append fits rest

theorem leastLength_le {value : FieldValue} {field : FieldSpec} (fits : value.Fits field) :
    field.leastLength ≤ (value.encode field).length := by
  unfold FieldSpec.leastLength encode
  by_cases own : field.isVariable
  · rw [if_pos own, if_pos own, List.length_append]
    unfold encodeLength
    split
    · rw [List.length_cons]
      omega
    · rw [List.length_singleton]
      omega
  · rw [Fits, if_neg own] at fits
    rw [if_neg own, if_neg own]
    exact Nat.le_of_eq fits.symm

/-- True when a list of values has one for each field, and each `Fits`. -/
def AllFit : List FieldSpec → List FieldValue → Prop
  | [], [] => True
  | field :: fields, value :: values => value.Fits field ∧ AllFit fields values
  | _, _ => False

instance decidableAllFit : (fields : List FieldSpec) → (values : List FieldValue) →
    Decidable (AllFit fields values)
  | [], [] => isTrue trivial
  | field :: fields, value :: values =>
    have := decidableAllFit fields values
    inferInstanceAs (Decidable (value.Fits field ∧ AllFit fields values))
  | [], _ :: _ => isFalse id
  | _ :: _, [] => isFalse id

/-- The values of a record, one behind the other, each by `encode`. -/
def encodeAll : List FieldSpec → List FieldValue → Bytes
  | field :: fields, value :: values => value.encode field ++ encodeAll fields values
  | _, _ => []

theorem readValues_encodeAll : ∀ {fields : List FieldSpec} {values : List FieldValue},
    AllFit fields values → ∀ rest,
      DataRecord.readValues fields (encodeAll fields values ++ rest)
        = .ok (values.map FieldValue.bytes, rest)
  | [], [], _, _ => rfl
  | field :: fields, value :: values, fit, rest => by
    obtain ⟨head, tail⟩ := fit
    rw [encodeAll, List.append_assoc, DataRecord.readValues,
      Reader.bind_ok (readValue_encode head _), Reader.bind_ok (readValues_encodeAll tail rest)]
    rfl

theorem leastRecordLength_le : ∀ {fields : List FieldSpec} {values : List FieldValue},
    AllFit fields values →
      sumOf FieldSpec.leastLength fields ≤ (encodeAll fields values).length
  | [], [], _ => Nat.le_refl 0
  | field :: fields, value :: values, fit => by
    obtain ⟨head, tail⟩ := fit
    have := leastLength_le head
    have := leastRecordLength_le tail
    simp only [encodeAll, sumOf, List.length_append]
    omega

end FieldValue

/-! ## Layouts -/

/-- What an exporter may announce in a version, for records that take at least one byte. The conditions are those
under which `Session.announce` keeps the template and `Session.dataRecords` reads by it. -/
structure Layout (version : Version) where
  id : UInt16
  fields : List FieldSpec
  usable : leastDataSetId ≤ id
  nonempty : fields ≠ []
  announced : ∀ field ∈ fields, field.Announced version
  positive : 1 ≤ (Template.mk .data fields).leastRecordLength

/-- A record of a layout: values that `AllFit` its fields. -/
structure Row (fields : List FieldSpec) where
  values : List FieldValue
  fit : FieldValue.AllFit fields values

namespace Layout

variable {version : Version}

/-- The template that a layout announces, and `Session.announce` stores. -/
def template (layout : Layout version) : Template := ⟨.data, layout.fields⟩

/-- The set that announces a layout, by the number that its version has for templates. -/
def templateSet (layout : Layout version) : RawSet where
  id := version.templateSetId
  body := Bytes.ofNat 2 layout.id.toNat
    ++ (Bytes.ofNat 2 layout.fields.length ++ layout.fields.flatMap FieldSpec.encode)

/-- A record as it stands in a data set, where `readValues` reads it. -/
def encodeRow (layout : Layout version) (row : Row layout.fields) : Bytes :=
  FieldValue.encodeAll layout.fields row.values

/-- The set that holds records of a layout, with padding behind them. -/
def dataSet (layout : Layout version) (rows : List (Row layout.fields)) (padding : Bytes) :
    RawSet where
  id := layout.id
  body := rows.flatMap layout.encodeRow ++ padding

theorem length_fields_lt (layout : Layout version) (fits : layout.templateSet.Fits) :
    layout.fields.length < 65536 := by
  have := FieldSpec.length_flatMap_encode_ge layout.fields
  simp only [RawSet.Fits, templateSet, List.length_append, Bytes.length_ofNat] at fits
  omega

theorem ofTemplateSet_templateSet (layout : Layout version) (fits : layout.templateSet.Fits) :
    Announcement.ofTemplateSet version layout.templateSet.body
      = ([.define layout.id layout.template], none) := by
  have count := layout.length_fields_lt fits
  have read : Announcement.readTemplate version layout.templateSet.body
      = .ok (.define layout.id layout.template, []) := by
    have some_field : UInt16.ofNat layout.fields.length ≠ 0 := by
      intro none_field
      have := congrArg UInt16.toNat none_field
      rw [UInt16.toNat_ofNat_of_lt' count] at this
      exact layout.nonempty (List.length_eq_zero_iff.1 this)
    have fields := FieldSpec.readFields_encode layout.announced []
    rw [List.append_nil] at fields
    unfold Announcement.readTemplate templateSet
    rw [Reader.bind_ok (Reader.u16_toNat _ _ _), Reader.bind_ok (Reader.u16_ofNat _ count _),
      if_neg some_field, UInt16.toNat_ofNat_of_lt' count, Reader.bind_ok fields]
    rfl
  have enough : 4 ≤ layout.templateSet.body.length := by
    simp [templateSet]
    omega
  rw [Announcement.ofTemplateSet, Reader.many_ok enough read (by simpa using by omega),
    Reader.many_short _ (by decide)]

theorem split_dataSet (layout : Layout version) (rows : List (Row layout.fields)) {padding : Bytes}
    (short : padding.length < layout.template.leastRecordLength) :
    DataRecord.split layout.template (layout.dataSet rows padding).body
      = (rows.map fun row => row.values.map FieldValue.bytes, none) := by
  have positive : 0 < layout.template.leastRecordLength := layout.positive
  have long : ∀ row ∈ rows, layout.template.leastRecordLength ≤ (layout.encodeRow row).length :=
    fun row _ => FieldValue.leastRecordLength_le row.fit
  have read : ∀ row ∈ rows, ∀ rest, DataRecord.readValues layout.fields (layout.encodeRow row ++ rest)
      = .ok (row.values.map FieldValue.bytes, rest) := fun row _ =>
    FieldValue.readValues_encodeAll row.fit
  have cut := Reader.many_written _ positive long read padding
  rw [Reader.many_short _ short, List.append_nil] at cut
  exact cut

end Layout

end Netflow

end FlowCollector
