import FlowCollector.Proofs.Evolution
import FlowCollector.Proofs.Netflow.Layout

/-!
# What stood in a template set

`Announcement.Written` is the grammar of the records of template sets, one rule for each form that a record has. The
readers take nothing else: whatever bytes a set has, what is read from it are records of that grammar, one behind the
other from its start, and each with all of its fields. A record that is cut off, or whose counts do not fit the set,
gives no announcement.
-/

set_option autoImplicit false

namespace FlowCollector.Netflow

namespace Announcement

/-- A record of a template set, as it stands in a set of this version and number: the announcement that the reader makes of it, and its bytes. -/
inductive Written : Version → UInt16 → Announcement → Bytes → Prop
  | data {version : Version} {id : UInt16} {fields : List FieldSpec}
    (nonempty : fields ≠ []) (count : fields.length < 65536)
    (announced : ∀ field ∈ fields, field.Announced version) :
    Written version version.templateSetId (.define id ⟨.data, fields⟩)
      (Bytes.ofNat 2 id.toNat ++ (Bytes.ofNat 2 fields.length ++ fields.flatMap FieldSpec.encode))
  /-- Version 9 gives the lengths in bytes of the scope and of the options. -/
  | optionsV9 {id : UInt16} {scope others : Nat} {fields : List FieldSpec}
    (count : fields.length = scope + others) (scope_fits : scope * 4 < 65536)
    (others_fit : others * 4 < 65536) (announced : ∀ field ∈ fields, field.Announced .v9) :
    Written .v9 (Version.v9.optionsTemplateSetId) (.define id ⟨.options scope, fields⟩)
      (Bytes.ofNat 2 id.toNat ++ (Bytes.ofNat 2 (scope * 4) ++ (Bytes.ofNat 2 (others * 4)
        ++ fields.flatMap FieldSpec.encode)))
  /-- IPFIX counts all fields, and those of the scope among them, where version 9 has lengths. -/
  | optionsIpfix {id : UInt16} {scope : Nat} {fields : List FieldSpec}
    (nonempty : fields ≠ []) (count : fields.length < 65536) (within : scope ≤ fields.length)
    (announced : ∀ field ∈ fields, field.Announced .ipfix) :
    Written .ipfix (Version.ipfix.optionsTemplateSetId) (.define id ⟨.options scope, fields⟩)
      (Bytes.ofNat 2 id.toNat ++ (Bytes.ofNat 2 fields.length ++ (Bytes.ofNat 2 scope
        ++ fields.flatMap FieldSpec.encode)))
  /-- A template of IPFIX without fields is one that is withdrawn, in either kind of template set. -/
  | withdraw {set : UInt16} (id : UInt16)
    (own : set = Version.ipfix.templateSetId ∨ set = Version.ipfix.optionsTemplateSetId) :
    Written .ipfix set (.withdraw id) (Bytes.ofNat 2 id.toNat ++ Bytes.ofNat 2 0)
  | blank (id : UInt16) :
    Written .v9 (Version.v9.templateSetId) .blank (Bytes.ofNat 2 id.toNat ++ Bytes.ofNat 2 0)

/-! ## Fields -/

theorem lt_enterpriseBit_iff {number : UInt16} :
    number < enterpriseBit ↔ number.toBitVec[15] = false := by
  have top : number.toBitVec.msb = number.toBitVec[15] := BitVec.msb_eq_getMsbD_zero _
  rw [← top, BitVec.msb_eq_decide, decide_eq_false_iff_not, Nat.not_le]
  exact UInt16.lt_iff_toNat_lt

theorem lt_enterpriseBit {number : UInt16} (h : number &&& enterpriseBit = 0) :
    number < enterpriseBit := by
  have bit := congrArg (fun word : UInt16 => word.toBitVec[15]) h
  rw [lt_enterpriseBit_iff]
  simpa [enterpriseBit] using bit

/-- Taking the mark `enterpriseBit` off a number and putting it back. -/
theorem and_not_or_enterpriseBit {number : UInt16} (h : number &&& enterpriseBit ≠ 0) :
    number &&& ~~~enterpriseBit ||| enterpriseBit = number := by
  have marked : number.toBitVec[15] = true := by
    by_contra unset
    exact h (and_enterpriseBit (lt_enterpriseBit_iff.2 ((Bool.not_eq_true _).mp unset)))
  have bits : ∀ (i : Nat) (hi : i < 16), enterpriseBit.toBitVec[i] = decide (i = 15) := by decide
  -- Bit by bit, and only the highest one is touched.
  apply UInt16.toBitVec_inj.1
  ext i hi
  simp only [UInt16.toBitVec_and, UInt16.toBitVec_or, UInt16.toBitVec_not, BitVec.getElem_and,
    BitVec.getElem_or, BitVec.getElem_not, bits]
  by_cases last : i = 15
  · subst last
    simp [marked]
  · simp [last]

theorem spells_readField (version : Version) :
    Reader.Spells (readField version) fun field front =>
      field.Announced version ∧ front = field.encode := by
  unfold readField
  apply (Reader.Spells.u16 _).bind
  intro number _ numbered
  apply (Reader.Spells.u16 _).bind
  intro length _ measured
  subst numbered measured
  cases version with
  | v9 =>
    dsimp only
    split
    · exact .fail _
    · rename_i fixed
      exact .pure ⟨⟨rfl, fixed⟩, by simp [FieldSpec.encode]⟩
  | ipfix =>
    dsimp only
    split
    · rename_i marked
      apply (Reader.Spells.u32 _).bind
      intro enterprise _ owned
      subst owned
      refine .pure ⟨and_not_enterpriseBit_lt number, ?_⟩
      simp [FieldSpec.encode, and_not_or_enterpriseBit marked]
    · rename_i unmarked
      exact .pure ⟨lt_enterpriseBit (not_not.1 unmarked), by simp [FieldSpec.encode]⟩

theorem spells_readFields (version : Version) (count : Nat) :
    Reader.Spells (readFields version count) fun fields front =>
      fields.length = count ∧ (∀ field ∈ fields, field.Announced version)
        ∧ front = fields.flatMap FieldSpec.encode := by
  unfold readFields
  apply Reader.Spells.remaining.bind
  intro remaining _ nothing
  subst nothing
  split
  · exact .fail _
  · exact (spells_readField version).times count

/-! ## Records -/

theorem spells_readTemplate (version : Version) :
    Reader.Spells (readTemplate version) (Written version version.templateSetId) := by
  unfold readTemplate
  apply (Reader.Spells.u16 _).bind
  intro id _ numbered
  apply (Reader.Spells.u16 _).bind
  intro count _ counted
  subst numbered counted
  split
  · rename_i none_named
    subst none_named
    cases version with
    | v9 => exact .pure (.blank id)
    | ipfix => exact .pure (.withdraw id (.inl rfl))
  · rename_i some_named
    apply (spells_readFields version _).bind
    intro fields _ read
    obtain ⟨length, announced, rfl⟩ := read
    apply Reader.Spells.pure
    have nonempty : fields ≠ [] := by
      rintro rfl
      exact some_named (UInt16.toNat_inj.1 length.symm)
    have written : Written version version.templateSetId (.define id ⟨.data, fields⟩) _ :=
      .data nonempty (length ▸ count.toNat_lt) announced
    simpa [length] using written

theorem spells_readOptionsTemplateV9 :
    Reader.Spells readOptionsTemplateV9 (Written .v9 Version.v9.optionsTemplateSetId) := by
  unfold readOptionsTemplateV9
  apply (Reader.Spells.u16 _).bind
  intro id _ numbered
  apply (Reader.Spells.u16 _).bind
  intro scope _ narrowed
  apply (Reader.Spells.u16 _).bind
  intro options _ counted
  apply Reader.Spells.remaining.bind
  intro remaining _ nothing
  subst numbered narrowed counted nothing
  split
  · exact .fail _
  · rename_i whole
    -- Lengths that no fields could have are refused, so nothing is lost when they are divided.
    obtain ⟨whole_scope, whole_options⟩ := not_or.1 whole
    have scope_back : scope.toNat / 4 * 4 = scope.toNat := by omega
    have options_back : options.toNat / 4 * 4 = options.toNat := by omega
    apply (spells_readFields .v9 _).bind
    intro fields _ read
    obtain ⟨length, announced, rfl⟩ := read
    apply Reader.Spells.pure
    have written : Written .v9 _ (.define id ⟨.options (scope.toNat / 4), fields⟩) _ :=
      .optionsV9 length (scope_back.symm ▸ scope.toNat_lt) (options_back.symm ▸ options.toNat_lt) announced
    simpa [scope_back, options_back] using written

theorem spells_readOptionsTemplateIpfix :
    Reader.Spells readOptionsTemplateIpfix (Written .ipfix Version.ipfix.optionsTemplateSetId) := by
  unfold readOptionsTemplateIpfix
  apply (Reader.Spells.u16 _).bind
  intro id _ numbered
  apply (Reader.Spells.u16 _).bind
  intro count _ counted
  subst numbered counted
  dsimp only
  split
  · rename_i none_named
    rw [none_named]
    exact .pure (.withdraw id (.inr rfl))
  · rename_i some_named
    apply (Reader.Spells.u16 _).bind
    intro scope _ narrowed
    subst narrowed
    split
    · exact .fail _
    · rename_i within
      apply (spells_readFields .ipfix _).bind
      intro fields _ read
      obtain ⟨length, announced, rfl⟩ := read
      apply Reader.Spells.pure
      have nonempty : fields ≠ [] := by
        rintro rfl
        exact some_named length.symm
      have written : Written .ipfix _ (.define id ⟨.options scope.toNat, fields⟩) _ :=
        .optionsIpfix nonempty (length ▸ count.toNat_lt) (length ▸ Nat.not_lt.1 within) announced
      simpa [length] using written

theorem spells_readOptionsTemplate (version : Version) :
    Reader.Spells (readOptionsTemplate version) (Written version version.optionsTemplateSetId) := by
  cases version with
  | v9 => exact spells_readOptionsTemplateV9
  | ipfix => exact spells_readOptionsTemplateIpfix

/-- Only a template set of IPFIX withdraws: there is one form of `Written` for it. -/
theorem Written.of_withdraw {version : Version} {number id : UInt16} {record : Bytes}
    (h : Written version number (.withdraw id) record) :
    version = .ipfix ∧ (number = Version.ipfix.templateSetId ∨ number = Version.ipfix.optionsTemplateSetId)
      ∧ record = Bytes.ofNat 2 id.toNat ++ Bytes.ofNat 2 0 := by
  cases h with
  | withdraw _ own => exact ⟨rfl, own, rfl⟩

end Announcement

/-! ## Sets -/

namespace RawSet

open Announcement (Written)

/-- A set has a record that is this announcement, `Written` behind other whole records if any. -/
def Holds (version : Version) (set : RawSet) (one : Announcement) : Prop :=
  ∃ (earlier : List Announcement) (front : List Bytes) (record rest : Bytes),
    List.Forall₂ (Written version set.id) earlier front ∧ Written version set.id one record
      ∧ set.body = front.flatten ++ (record ++ rest)

variable {version : Version} {set : RawSet} {one : Announcement}

theorem holds_of_mem {said : List Announcement} {records : List Bytes} {rest : Bytes}
    (written : List.Forall₂ (Written version set.id) said records)
    (body : set.body = records.flatten ++ rest) (mem : one ∈ said) : set.Holds version one := by
  suffices cut : ∃ earlier front record back, List.Forall₂ (Written version set.id) earlier front
      ∧ Written version set.id one record ∧ records = front ++ record :: back by
    obtain ⟨earlier, front, record, back, before, own, rfl⟩ := cut
    exact ⟨earlier, front, record, back.flatten ++ rest, before, own, by simpa using body⟩
  -- What stands behind the records has no part in where one of them is.
  clear body
  induction written with
  | nil => cases mem
  | @cons first bytes _ _ own _ ih =>
    rcases List.mem_cons.1 mem with rfl | behind
    · exact ⟨[], [], _, _, .nil, own, rfl⟩
    · obtain ⟨earlier, front, record, back, before, found, rfl⟩ := ih behind
      exact ⟨first :: earlier, bytes :: front, record, back, .cons own before, found, rfl⟩

theorem holds_of_mem_ofTemplateSet (own : set.id = version.templateSetId)
    (mem : one ∈ (Announcement.ofTemplateSet version set.body).1) : set.Holds version one := by
  obtain ⟨records, rest, written, body⟩ :=
    (Announcement.spells_readTemplate version).many 4 set.body
  exact holds_of_mem (own ▸ written) body mem

theorem holds_of_mem_ofOptionsTemplateSet (own : set.id = version.optionsTemplateSetId)
    (mem : one ∈ (Announcement.ofOptionsTemplateSet version set.body).1) : set.Holds version one := by
  obtain ⟨records, rest, written, body⟩ :=
    (Announcement.spells_readOptionsTemplate version).many _ set.body
  exact holds_of_mem (own ▸ written) body mem

end RawSet

end FlowCollector.Netflow
