import FlowCollector.Proofs.Netflow.Announced

/-!
# What is wrong with a template record

`Announcement.Written` says which bytes are a template record, and `Announcement.Malformed` which bytes are none, and
why: one rule for each thing that can be wrong, with the error that tells of it. The two leave no third kind, so what
a template set falls into is known without a look at how it is read.
-/

set_option autoImplicit false

namespace FlowCollector.Netflow

namespace Announcement

/-- Bytes that no field of a template stands in front of, with the error of `readField`. -/
inductive FieldMalformed : Version → Bytes → DecodeError → Prop
  | numberCutOff {version : Version} {bytes : Bytes} (short : bytes.length < 2) :
    FieldMalformed version bytes (.truncated .templateField 2 bytes.length)
  | lengthCutOff {version : Version} (number : UInt16) {rest : Bytes} (short : rest.length < 2) :
    FieldMalformed version (Bytes.ofNat 2 number.toNat ++ rest) (.truncated .templateField 2 rest.length)
  /-- In version 9 no value brings its own width, so the length that says so is none. -/
  | variableLength (number : UInt16) (rest : Bytes) :
    FieldMalformed .v9
      (Bytes.ofNat 2 number.toNat ++ (Bytes.ofNat 2 FieldSpec.variableLength.toNat ++ rest))
      (.malformedLength .templateField 65535 0)
  | enterpriseCutOff {number : UInt16} (length : UInt16) {rest : Bytes} (marked : enterpriseBit ≤ number)
    (short : rest.length < 4) :
    FieldMalformed .ipfix (Bytes.ofNat 2 number.toNat ++ (Bytes.ofNat 2 length.toNat ++ rest))
      (.truncated .templateField 4 rest.length)

/-- Bytes that so many fields do not stand in front of, with the error of `readFields`. -/
inductive FieldsMalformed (version : Version) (count : Nat) : Bytes → DecodeError → Prop
  /-- The list is longer than the set, whatever its fields are. This is found before a field is looked at. -/
  | tooFew {bytes : Bytes} (short : bytes.length < count * 4) :
    FieldsMalformed version count bytes (.malformedLength .template (count * 4) bytes.length)
  /-- Behind some fields of the list stands what is `FieldMalformed`. -/
  | field {fields : List FieldSpec} {rest : Bytes} {error : DecodeError} (fewer : fields.length < count)
    (announced : ∀ field ∈ fields, field.Announced version)
    (enough : count * 4 ≤ (fields.flatMap FieldSpec.encode ++ rest).length)
    (malformed : FieldMalformed version rest error) :
    FieldsMalformed version count (fields.flatMap FieldSpec.encode ++ rest) error

/-- Bytes in a set of this version and number that no record stands in front of, and why: what `Written` leaves
out. -/
inductive Malformed : Version → UInt16 → Bytes → DecodeError → Prop
  | fields {version : Version} (id : UInt16) {count : UInt16} {rest : Bytes} {error : DecodeError}
    (nonempty : count ≠ 0) (malformed : FieldsMalformed version count.toNat rest error) :
    Malformed version version.templateSetId
      (Bytes.ofNat 2 id.toNat ++ (Bytes.ofNat 2 count.toNat ++ rest)) error
  /-- A list of fields of version 9 takes a multiple of four bytes. -/
  | lengthsV9 (id : UInt16) {scope others : UInt16} (rest : Bytes)
    (uneven : scope.toNat % 4 ≠ 0 ∨ others.toNat % 4 ≠ 0) :
    Malformed .v9 (Version.v9.optionsTemplateSetId)
      (Bytes.ofNat 2 id.toNat ++ (Bytes.ofNat 2 scope.toNat ++ (Bytes.ofNat 2 others.toNat ++ rest)))
      (.malformedLength .optionsTemplate (scope.toNat + others.toNat) rest.length)
  | optionsFieldsV9 (id : UInt16) {scope others : Nat} {rest : Bytes} {error : DecodeError}
    (scope_fits : scope * 4 < 65536) (others_fit : others * 4 < 65536)
    (malformed : FieldsMalformed .v9 (scope + others) rest error) :
    Malformed .v9 (Version.v9.optionsTemplateSetId)
      (Bytes.ofNat 2 id.toNat ++ (Bytes.ofNat 2 (scope * 4) ++ (Bytes.ofNat 2 (others * 4) ++ rest))) error
  | scopeCutOff (id : UInt16) {count : UInt16} {rest : Bytes} (nonempty : count ≠ 0) (short : rest.length < 2) :
    Malformed .ipfix (Version.ipfix.optionsTemplateSetId)
      (Bytes.ofNat 2 id.toNat ++ (Bytes.ofNat 2 count.toNat ++ rest))
      (.truncated .optionsTemplate 2 rest.length)
  /-- More fields of the scope than fields. -/
  | scopeTooLarge (id : UInt16) {count scope : UInt16} (rest : Bytes) (nonempty : count ≠ 0) (more : count < scope) :
    Malformed .ipfix (Version.ipfix.optionsTemplateSetId)
      (Bytes.ofNat 2 id.toNat ++ (Bytes.ofNat 2 count.toNat ++ (Bytes.ofNat 2 scope.toNat ++ rest)))
      (.malformedLength .optionsTemplateScope scope.toNat count.toNat)
  | optionsFieldsIpfix (id : UInt16) {count scope : UInt16} {rest : Bytes} {error : DecodeError}
    (nonempty : count ≠ 0) (within : scope ≤ count) (malformed : FieldsMalformed .ipfix count.toNat rest error) :
    Malformed .ipfix (Version.ipfix.optionsTemplateSetId)
      (Bytes.ofNat 2 id.toNat ++ (Bytes.ofNat 2 count.toNat ++ (Bytes.ofNat 2 scope.toNat ++ rest))) error

/-! ## Fields -/

theorem enterpriseBit_le {number : UInt16} (h : number &&& enterpriseBit ≠ 0) : enterpriseBit ≤ number := by
  by_contra below
  exact h (and_enterpriseBit (UInt16.not_le.1 below))

theorem and_enterpriseBit_ne_zero {number : UInt16} (h : enterpriseBit ≤ number) :
    number &&& enterpriseBit ≠ 0 := fun unmarked =>
  UInt16.not_le.2 (lt_enterpriseBit unmarked) h

theorem FieldMalformed.fails {version : Version} {bytes : Bytes} {error : DecodeError}
    (h : FieldMalformed version bytes error) : readField version bytes = .error error := by
  unfold readField
  cases h with
  | numberCutOff short => exact Reader.bind_error (Reader.u16_short _ short)
  | lengthCutOff number short =>
    rw [Reader.bind_ok (Reader.u16_toNat _ number _), Reader.bind_error (Reader.u16_short _ short)]
  | variableLength number rest =>
    rw [Reader.bind_ok (Reader.u16_toNat _ number _), Reader.bind_ok (Reader.u16_toNat _ FieldSpec.variableLength _)]
    rfl
  | enterpriseCutOff length marked short =>
    rw [Reader.bind_ok (Reader.u16_toNat _ _ _), Reader.bind_ok (Reader.u16_toNat _ length _)]
    dsimp only
    rw [if_pos (and_enterpriseBit_ne_zero marked), Reader.bind_error (Reader.u32_short _ short)]

theorem failsOn_readField (version : Version) : Reader.FailsOn (readField version) (FieldMalformed version) := by
  unfold readField
  refine .bind (.u16 _) (.u16 _ fun _ => .numberCutOff) fun number _ numbered => ?_
  subst numbered
  refine .bind (.u16 _) (.u16 _ fun _ => .lengthCutOff number) fun length _ measured => ?_
  subst measured
  cases version with
  | v9 =>
    dsimp only
    split
    · rename_i own
      subst own
      exact .fail fun rest => .variableLength number rest
    · exact .pure _
  | ipfix =>
    dsimp only
    split
    · rename_i marked
      refine .bind (.u32 _) (.u32 _ fun _ => ?_) fun _ _ _ => .pure _
      exact .enterpriseCutOff length (enterpriseBit_le marked)
    · exact .pure _

theorem FieldsMalformed.fails {version : Version} {count : Nat} {bytes : Bytes} {error : DecodeError}
    (h : FieldsMalformed version count bytes error) : readFields version count bytes = .error error := by
  unfold readFields
  rw [Reader.bind_ok (Reader.remaining_apply _)]
  cases h with
  | tooFew short =>
    rw [if_pos short]
    rfl
  | field fewer announced enough malformed =>
    rw [if_neg (Nat.not_lt.2 enough)]
    exact Reader.times_fails (fun field mem => FieldSpec.readField_encode (announced field mem)) fewer malformed.fails

theorem failsOn_readFields (version : Version) (count : Nat) :
    Reader.FailsOn (readFields version count) (FieldsMalformed version count) := by
  refine .remaining fun bytes error failed => ?_
  split at failed
  · rename_i short
    obtain rfl := Except.error.inj failed
    exact .tooFew short
  · rename_i enough
    obtain ⟨fields, rest, fewer, announced, rfl, malformed⟩ :=
      (failsOn_readField version).times (spells_readField version) count _ _ failed
    exact .field fewer announced (Nat.not_lt.1 enough) malformed

/-! ## Records -/

/-- Reads one record of a set of this number, by `readTemplate` or `readOptionsTemplate`. -/
def readRecord (version : Version) (set : UInt16) : Reader Announcement :=
  if set = version.templateSetId then readTemplate version else readOptionsTemplate version

/-- The fewest bytes that are more than padding in a set of this number. Below that `Reader.many` reads no record. -/
def leastRecord (version : Version) (set : UInt16) : Nat :=
  if version = .v9 ∧ set = Version.v9.optionsTemplateSetId then 6 else 4

theorem leastRecord_pos (version : Version) (set : UInt16) : 0 < leastRecord version set := by
  unfold leastRecord
  split <;> decide

theorem readRecord_template (version : Version) : readRecord version version.templateSetId = readTemplate version :=
  if_pos rfl

theorem readRecord_options (version : Version) :
    readRecord version version.optionsTemplateSetId = readOptionsTemplate version :=
  if_neg (by cases version <;> decide)

theorem toNat_ne_zero {count : UInt16} (nonempty : count ≠ 0) : count.toNat ≠ 0 :=
  fun zero => nonempty (UInt16.toNat_inj.1 zero)

/-- What is left to read behind the number of a template and the count of its fields: the fields, by `readFields`. -/
theorem readTemplate_counted (version : Version) (id : UInt16) {count : Nat} (positive : count ≠ 0)
    (fits : count < 65536) (rest : Bytes) :
    readTemplate version (Bytes.ofNat 2 id.toNat ++ (Bytes.ofNat 2 count ++ rest))
      = (readFields version count >>= fun fields => pure (.define id ⟨.data, fields⟩)) rest := by
  have back := UInt16.toNat_ofNat_of_lt' fits
  have some_named : UInt16.ofNat count ≠ 0 := fun zero => positive (back.symm.trans (congrArg UInt16.toNat zero))
  rw [readTemplate, Reader.bind_ok (Reader.u16_toNat _ id _), Reader.bind_ok (Reader.u16_ofNat _ fits _),
    if_neg some_named, back]

theorem readOptionsTemplateV9_measured (id : UInt16) {scope others : Nat} (scope_fits : scope < 65536)
    (others_fit : others < 65536) (rest : Bytes) :
    readOptionsTemplateV9 (Bytes.ofNat 2 id.toNat ++ (Bytes.ofNat 2 scope ++ (Bytes.ofNat 2 others ++ rest)))
      = if scope % 4 ≠ 0 ∨ others % 4 ≠ 0 then .error (.malformedLength .optionsTemplate (scope + others) rest.length)
        else (readFields .v9 (scope / 4 + others / 4) >>= fun fields =>
          pure (.define id ⟨.options (scope / 4), fields⟩)) rest := by
  rw [readOptionsTemplateV9, Reader.bind_ok (Reader.u16_toNat _ id _), Reader.bind_ok (Reader.u16_ofNat _ scope_fits _),
    Reader.bind_ok (Reader.u16_ofNat _ others_fit _), Reader.bind_ok (Reader.remaining_apply _),
    UInt16.toNat_ofNat_of_lt' scope_fits, UInt16.toNat_ofNat_of_lt' others_fit]
  split <;> rfl

theorem readOptionsTemplateIpfix_counted (id : UInt16) {count : Nat} (positive : count ≠ 0) (fits : count < 65536)
    (rest : Bytes) :
    readOptionsTemplateIpfix (Bytes.ofNat 2 id.toNat ++ (Bytes.ofNat 2 count ++ rest))
      = (Reader.u16 .optionsTemplate >>= fun scope =>
          if count < scope.toNat then Reader.fail (.malformedLength .optionsTemplateScope scope.toNat count)
          else readFields .ipfix count >>= fun fields =>
            pure (.define id ⟨.options scope.toNat, fields⟩)) rest := by
  rw [readOptionsTemplateIpfix, Reader.bind_ok (Reader.u16_toNat _ id _), Reader.bind_ok (Reader.u16_ofNat _ fits _),
    UInt16.toNat_ofNat_of_lt' fits]
  exact congrFun (if_neg positive) rest

section Written

variable {version : Version} {set : UInt16} {said : Announcement} {front : Bytes}

theorem Written.leastRecord_le (h : Written version set said front) : leastRecord version set ≤ front.length := by
  cases h with
  | data => cases version <;> simp [leastRecord, Version.templateSetId, Version.optionsTemplateSetId] <;> omega
  | optionsV9 =>
    simp [leastRecord]
    omega
  | optionsIpfix =>
    simp [leastRecord]
    omega
  | withdraw => simp [leastRecord]
  | blank => simp [leastRecord, Version.templateSetId, Version.optionsTemplateSetId]

/-- A record that is `Written` is read as what it is, whatever stands behind it. -/
theorem Written.reads (h : Written version set said front) (rest : Bytes) :
    readRecord version set (front ++ rest) = .ok (said, rest) := by
  cases h with
  | @data _ id fields nonempty count announced =>
    have positive : fields.length ≠ 0 := fun zero => nonempty (List.length_eq_zero_iff.1 zero)
    rw [readRecord_template, List.append_assoc, List.append_assoc, readTemplate_counted _ id positive count,
      Reader.bind_ok (FieldSpec.readFields_encode announced rest)]
    rfl
  | @optionsV9 id scope others fields count scope_fits others_fit announced =>
    have even : ¬ (scope * 4 % 4 ≠ 0 ∨ others * 4 % 4 ≠ 0) := by omega
    have sum : scope * 4 / 4 + others * 4 / 4 = fields.length := by omega
    rw [readRecord_options, List.append_assoc, List.append_assoc, List.append_assoc, readOptionsTemplate,
      readOptionsTemplateV9_measured id scope_fits others_fit, if_neg even, sum,
      Reader.bind_ok (FieldSpec.readFields_encode announced rest), Nat.mul_div_cancel scope (by decide)]
    rfl
  | @optionsIpfix id scope fields nonempty count within announced =>
    have positive : fields.length ≠ 0 := fun zero => nonempty (List.length_eq_zero_iff.1 zero)
    have narrow : scope < 65536 := Nat.lt_of_le_of_lt within count
    rw [readRecord_options, List.append_assoc, List.append_assoc, List.append_assoc, readOptionsTemplate,
      readOptionsTemplateIpfix_counted id positive count, Reader.bind_ok (Reader.u16_ofNat _ narrow _),
      UInt16.toNat_ofNat_of_lt' narrow, if_neg (Nat.not_lt.2 within),
      Reader.bind_ok (FieldSpec.readFields_encode announced rest)]
    rfl
  | withdraw id own =>
    rcases own with rfl | rfl
    · rw [readRecord_template, List.append_assoc, readTemplate, Reader.bind_ok (Reader.u16_toNat _ id _),
        Reader.bind_ok (Reader.u16_ofNat _ (by decide) _)]
      rfl
    · rw [readRecord_options, List.append_assoc, readOptionsTemplate, readOptionsTemplateIpfix,
        Reader.bind_ok (Reader.u16_toNat _ id _), Reader.bind_ok (Reader.u16_ofNat _ (by decide) _)]
      rfl
  | blank id =>
    rw [readRecord_template, List.append_assoc, readTemplate, Reader.bind_ok (Reader.u16_toNat _ id _),
      Reader.bind_ok (Reader.u16_ofNat _ (by decide) _)]
    rfl

end Written

section Malformed

variable {version : Version} {set : UInt16} {bytes : Bytes} {error : DecodeError}

theorem Malformed.fails (h : Malformed version set bytes error) : readRecord version set bytes = .error error := by
  cases h with
  | @fields version id count rest error nonempty malformed =>
    have positive := toNat_ne_zero nonempty
    rw [readRecord_template, readTemplate_counted _ id positive count.toNat_lt, Reader.bind_error malformed.fails]
  | @lengthsV9 id scope others rest uneven =>
    rw [readRecord_options, readOptionsTemplate, readOptionsTemplateV9_measured id scope.toNat_lt others.toNat_lt,
      if_pos uneven]
  | @optionsFieldsV9 id scope others rest error scope_fits others_fit malformed =>
    have even : ¬ (scope * 4 % 4 ≠ 0 ∨ others * 4 % 4 ≠ 0) := by omega
    have sum : scope * 4 / 4 + others * 4 / 4 = scope + others := by omega
    rw [readRecord_options, readOptionsTemplate, readOptionsTemplateV9_measured id scope_fits others_fit, if_neg even,
      sum, Reader.bind_error malformed.fails]
  | @scopeCutOff id count rest nonempty short =>
    have positive := toNat_ne_zero nonempty
    rw [readRecord_options, readOptionsTemplate, readOptionsTemplateIpfix_counted id positive count.toNat_lt,
      Reader.bind_error (Reader.u16_short _ short)]
  | @scopeTooLarge id count scope rest nonempty more =>
    have positive := toNat_ne_zero nonempty
    have more : count.toNat < scope.toNat := more
    rw [readRecord_options, readOptionsTemplate, readOptionsTemplateIpfix_counted id positive count.toNat_lt,
      Reader.bind_ok (Reader.u16_toNat _ scope _), if_pos more]
    rfl
  | @optionsFieldsIpfix id count scope rest error nonempty within malformed =>
    have positive := toNat_ne_zero nonempty
    have within : ¬ count.toNat < scope.toNat := Nat.not_lt.2 within
    rw [readRecord_options, readOptionsTemplate, readOptionsTemplateIpfix_counted id positive count.toNat_lt,
      Reader.bind_ok (Reader.u16_toNat _ scope _), if_neg within, Reader.bind_error malformed.fails]

end Malformed

/-- Every record that `readTemplate` refuses is `Malformed`, if there is enough for its number and count. -/
theorem failsOn_readTemplate (version : Version) :
    Reader.FailsOn (readTemplate version) fun bytes error =>
      4 ≤ bytes.length → Malformed version version.templateSetId bytes error := by
  unfold readTemplate
  refine .bind (.u16 _) (.u16 _ fun bytes short enough => by omega) fun id _ numbered => ?_
  subst numbered
  refine .bind (.u16 _) (.u16 _ fun bytes short enough => ?_) fun count _ counted => ?_
  · simp at enough
    omega
  subst counted
  split
  · cases version <;> exact .pure _
  · rename_i nonempty
    refine .bind (spells_readFields version _) ?_ fun _ _ _ => .pure _
    exact (failsOn_readFields version _).mono fun rest error malformed _ => .fields id nonempty malformed

theorem failsOn_readOptionsTemplateV9 :
    Reader.FailsOn readOptionsTemplateV9 fun bytes error =>
      6 ≤ bytes.length → Malformed .v9 Version.v9.optionsTemplateSetId bytes error := by
  unfold readOptionsTemplateV9
  refine .bind (.u16 _) (.u16 _ fun bytes short enough => by omega) fun id _ numbered => ?_
  subst numbered
  refine .bind (.u16 _) (.u16 _ fun bytes short enough => ?_) fun scope _ narrowed => ?_
  · simp at enough
    omega
  subst narrowed
  refine .bind (.u16 _) (.u16 _ fun bytes short enough => ?_) fun others _ counted => ?_
  · simp at enough
    omega
  subst counted
  refine .remaining fun rest error failed _ => ?_
  split at failed
  · rename_i uneven
    obtain rfl := Except.error.inj failed
    exact .lengthsV9 id rest uneven
  · rename_i even
    obtain ⟨even_scope, even_others⟩ := not_or.1 even
    have scope_back : scope.toNat / 4 * 4 = scope.toNat := by omega
    have others_back : others.toNat / 4 * 4 = others.toNat := by omega
    have list := Reader.FailsOn.bind (spells_readFields .v9 _) (failsOn_readFields .v9 _)
      (fun _ _ _ => .pure _) _ _ failed
    have malformed := Malformed.optionsFieldsV9 id (scope_back.symm ▸ scope.toNat_lt)
      (others_back.symm ▸ others.toNat_lt) list
    rwa [scope_back, others_back] at malformed

theorem failsOn_readOptionsTemplateIpfix :
    Reader.FailsOn readOptionsTemplateIpfix fun bytes error =>
      4 ≤ bytes.length → Malformed .ipfix Version.ipfix.optionsTemplateSetId bytes error := by
  unfold readOptionsTemplateIpfix
  refine .bind (.u16 _) (.u16 _ fun bytes short enough => by omega) fun id _ numbered => ?_
  subst numbered
  refine .bind (.u16 _) (.u16 _ fun bytes short enough => ?_) fun count _ counted => ?_
  · simp at enough
    omega
  subst counted
  dsimp only
  split
  · exact .pure _
  · rename_i positive
    have nonempty : count ≠ 0 := mt (congrArg UInt16.toNat) positive
    refine .bind (.u16 _) (.u16 _ fun rest short _ => .scopeCutOff id nonempty short) fun scope _ narrowed => ?_
    subst narrowed
    split
    · rename_i more
      exact .fail fun rest _ => .scopeTooLarge id rest nonempty more
    · rename_i within
      refine .bind (spells_readFields .ipfix _) ?_ fun _ _ _ => .pure _
      exact (failsOn_readFields .ipfix _).mono fun rest error malformed _ =>
        .optionsFieldsIpfix id nonempty (Nat.not_lt.1 within) malformed

/-- Of the bytes of a template set there is no third kind: a record is `Written` there, or one of the rules of
`Malformed` says why there is none, and the reader does as they say. -/
theorem exact_readRecord {version : Version} {set : UInt16}
    (own : set = version.templateSetId ∨ set = version.optionsTemplateSetId) :
    Reader.Exact (leastRecord version set) (readRecord version set) (Written version set) (Malformed version set) := by
  refine .of_spells ?_ ?_ (fun _ _ h => h.leastRecord_le) (fun _ _ h => h.reads) (fun _ _ h => h.fails)
  · rcases own with rfl | rfl
    · exact readRecord_template version ▸ spells_readTemplate version
    · exact readRecord_options version ▸ spells_readOptionsTemplate version
  · rcases own with rfl | rfl
    · have least : leastRecord version version.templateSetId = 4 := by cases version <;> rfl
      rw [readRecord_template, least]
      exact failsOn_readTemplate version
    · rw [readRecord_options]
      cases version with
      | v9 => exact failsOn_readOptionsTemplateV9
      | ipfix => exact failsOn_readOptionsTemplateIpfix

end Announcement

end FlowCollector.Netflow
