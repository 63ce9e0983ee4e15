import FlowCollector.Proofs.Netflow.Composition
import FlowCollector.Proofs.Netflow.RoundTrip
import FlowCollector.Proofs.Netflow.TemplateSet

/-!
# What version 9 and IPFIX have in common

An exporter that keeps to standard fields of fixed widths writes its sets alike in both versions, but for the number that
marks a template set. The headers differ, and so do the readers of fields and of options, but none of that is seen in
what such sets come to. Nor does it matter in which version a template was announced that stands in the store: a data set
may be read by one with enterprises and with values that bring their own width.

Options are where the versions part, since version 9 numbers its scope fields apart. So a data set must not meet a
template of options.
-/

set_option autoImplicit false

namespace FlowCollector

/-- True of a field that both versions announce, and with the same bytes: one of no enterprise and of fixed width. -/
def FieldSpec.Plain (field : FieldSpec) : Prop :=
  field.enterprise = none ∧ field.fieldType < Netflow.Announcement.enterpriseBit ∧ field.length ≠ variableLength

instance (field : FieldSpec) : Decidable field.Plain := by
  unfold FieldSpec.Plain
  infer_instance

theorem FieldSpec.Plain.announced {field : FieldSpec} (plain : field.Plain) (version : Netflow.Version) :
    field.Announced version := by
  obtain ⟨standard, number, fixed⟩ := plain
  cases version with
  | v9 => exact ⟨standard, fixed⟩
  | ipfix => exact number

namespace Netflow

/-! ## Plain sets -/

/-- A template that both versions announce with the same bytes: all of its fields are `Plain`. -/
structure PlainTemplate where
  id : UInt16
  fields : List FieldSpec
  nonempty : fields ≠ []
  plain : ∀ field ∈ fields, field.Plain

namespace PlainTemplate

/-- What a template is announced as, in either version. -/
def announcement (template : PlainTemplate) : Announcement := .define template.id ⟨.data, template.fields⟩

/-- A template as it stands in a set, where `readTemplate` of either version reads it. -/
def encode (template : PlainTemplate) : Bytes :=
  Bytes.ofNat 2 template.id.toNat
    ++ (Bytes.ofNat 2 template.fields.length ++ template.fields.flatMap FieldSpec.encode)

theorem length_fields_le (template : PlainTemplate) : template.fields.length ≤ template.encode.length := by
  have := FieldSpec.length_flatMap_encode_ge template.fields
  simp only [encode, List.length_append, Bytes.length_ofNat]
  omega

end PlainTemplate

/-- A set that has the same body in both versions: templates that are plain, or data of any kind. -/
inductive PlainSet where
  | templates (announced : List PlainTemplate) (padding : Bytes) (short : padding.length < 4)
  | data (id : UInt16) (body : Bytes) (usable : leastDataSetId ≤ id)

namespace PlainSet

/-- The number of the set, which for templates is the version's own `templateSetId`. -/
def id (version : Version) : PlainSet → UInt16
  | .templates .. => version.templateSetId
  | .data id .. => id

def body : PlainSet → Bytes
  | .templates announced padding _ => announced.flatMap PlainTemplate.encode ++ padding
  | .data _ body _ => body

/-- The set as a version has it. Only the number can differ. -/
def raw (version : Version) (set : PlainSet) : RawSet := ⟨set.id version, set.body⟩

/-- A set whose length can be declared, in either version; it is that of `RawSet.Fits`. -/
def Fits (set : PlainSet) : Prop := RawSet.headerLength + set.body.length < 65536

instance (set : PlainSet) : Decidable set.Fits := inferInstanceAs (Decidable (_ < _))

/-- What a set needs of the store: a data set has no template there, or one of flows. A template of options is read by
`standardFields`, which passes its scope over in version 9 only. -/
def Readable (exporter : IpAddress) (domain : UInt32) : PlainSet → Store → Prop
  | .templates .., _ => True
  | .data id .., store => ∀ template ∈ store.lookup? ⟨exporter, domain, id⟩, template.isOptions = false

instance (exporter : IpAddress) (domain : UInt32) (set : PlainSet) (store : Store) :
    Decidable (set.Readable exporter domain store) := by
  cases set <;> unfold Readable <;> infer_instance

end PlainSet

/-- Templates that are written one behind the other are the records of their set, whatever the version: both have the
same `Parts`. -/
theorem PlainTemplate.parts (version : Version) {announced : List PlainTemplate}
    (counts : ∀ template ∈ announced, template.fields.length < 65536) {padding : Bytes} (short : padding.length < 4) :
    Announcement.Parts version version.templateSetId (announced.flatMap encode ++ padding)
      (announced.map announcement) none := by
  induction announced with
  | nil =>
    have least : Announcement.leastRecord version version.templateSetId = 4 := by cases version <;> rfl
    exact .padding (least.symm ▸ short)
  | cons first others ih =>
    have written : Announcement.Written version version.templateSetId first.announcement first.encode :=
      .data first.nonempty (counts first List.mem_cons_self) fun field mem => (first.plain field mem).announced version
    rw [List.flatMap_cons, List.append_assoc]
    exact .item written (ih fun template mem => counts template (List.mem_cons_of_mem first mem))

namespace Session

variable {one other : Version} {exporter : IpAddress} {domain : UInt32} {timeReceived : UInt64}

/-- A template set asks the store for the same in either version. -/
theorem set_templates (version : Version) {announced : List PlainTemplate} {padding : Bytes}
    (short : padding.length < 4) (fits : (PlainSet.templates announced padding short).Fits) (store : Store) :
    (Session.mk version exporter domain timeReceived).set ((PlainSet.templates announced padding short).raw version) store
      = asking ((announced.map PlainTemplate.announcement).filterMap
          (Session.mk .v9 exporter domain timeReceived).request?) store := by
  have counts : ∀ template ∈ announced, template.fields.length < 65536 := by
    intro template mem
    have own := template.length_fields_le
    have inside : template.encode.length ≤ (announced.flatMap PlainTemplate.encode).length :=
      List.flatMap_def ▸ (List.sublist_flatten_of_mem (List.mem_map_of_mem mem)).length_le
    simp only [PlainSet.Fits, PlainSet.body, List.length_append] at fits
    omega
  let session : Session := ⟨version, exporter, domain, timeReceived⟩
  have own : version.templateSetId = session.version.templateSetId := rfl
  exact set_eq_asking (.inl own) (PlainTemplate.parts version counts short) store

/-- Where no scope is set apart, `Session.record` makes the same of the values of a record. -/
theorem record_either {template : Template} (flows : template.isOptions = false) :
    (Session.mk one exporter domain timeReceived).record template
      = (Session.mk other exporter domain timeReceived).record template := by
  obtain ⟨kind, fields⟩ := template
  cases kind with
  | data => cases one <;> cases other <;> rfl
  | options => cases flows

theorem dataSet_either {id : UInt16} {body : Bytes} {store : Store}
    (flows : ∀ template ∈ store.lookup? ⟨exporter, domain, id⟩, template.isOptions = false) :
    (Session.mk one exporter domain timeReceived).dataSet id body store
      = (Session.mk other exporter domain timeReceived).dataSet id body store := by
  unfold dataSet key
  cases known : store.lookup? ⟨exporter, domain, id⟩ with
  | none => rfl
  | some template =>
    have same : (Session.mk one exporter domain timeReceived).record template
        = (Session.mk other exporter domain timeReceived).record template := record_either (flows template known)
    dsimp only
    unfold dataRecords
    rw [same]

/-- One set comes to the same in both versions, if it is `Readable`, and leaves the same store. -/
theorem set_either {set : PlainSet} (fits : set.Fits) {store : Store} (readable : set.Readable exporter domain store) :
    (Session.mk one exporter domain timeReceived).set (set.raw one) store
      = (Session.mk other exporter domain timeReceived).set (set.raw other) store := by
  cases set with
  | templates announced padding short =>
    exact (set_templates one short fits store).trans (set_templates other short fits store).symm
  | data id body usable =>
    have data : leastDataSetId ≤ (RawSet.mk id body).id := usable
    exact (set_dataSet _ data store).trans ((dataSet_either readable).trans (set_dataSet _ data store).symm)

end Session

/-! ## Messages of them -/

/-- The sets of a message, one behind the other, as a version has them. -/
def PlainSet.encodeAll (version : Version) (sets : List PlainSet) : Bytes :=
  sets.flatMap fun set => (set.raw version).encode

/-- True when no data set meets a template of options, each being `PlainSet.Readable` when its turn comes, if a
message with this header holds the sets. -/
def Header.Readable (header : Header) (exporter : IpAddress) (timeReceived : UInt64) (sets : List PlainSet)
    (store : Store) : Prop :=
  Decoded.Meets (fun set => (header.session exporter timeReceived).set (set.raw header.version))
    (fun set => set.Readable exporter header.domain) sets store

instance (header : Header) (exporter : IpAddress) (timeReceived : UInt64) (sets : List PlainSet) (store : Store) :
    Decidable (header.Readable exporter timeReceived sets store) := by
  unfold Header.Readable
  infer_instance

theorem Session.sets_encodeAll (session : Session) {sets : List PlainSet} (fit : ∀ set ∈ sets, set.Fits)
    (store : Store) :
    session.sets (PlainSet.encodeAll session.version sets) store
      = Decoded.sequence (fun set => session.set (set.raw session.version)) sets store := by
  have written : PlainSet.encodeAll session.version sets
      = (sets.map (PlainSet.raw session.version)).flatMap RawSet.encode := by
    rw [List.flatMap_map]
    rfl
  have fit' : ∀ raw ∈ sets.map (PlainSet.raw session.version), raw.Fits := by
    intro raw mem
    obtain ⟨set, inside, rfl⟩ := List.mem_map.1 mem
    exact fit set inside
  rw [written, session.sets_written fit', Decoded.sequence_map]

/-- Two messages of the same `PlainSet`s about the same domain come to the same records, errors and templates and
leave the same store, whichever versions they are of, if the header of each fits its message and each set is readable
when its turn comes. -/
theorem decode_in_either_version (one other : Header) {sets : List PlainSet} (domain : one.domain = other.domain)
    (fit : ∀ set ∈ sets, set.Fits) (oneFits : one.Fits (PlainSet.encodeAll one.version sets))
    (otherFits : other.Fits (PlainSet.encodeAll other.version sets)) {exporter : IpAddress} {timeReceived : UInt64}
    {store : Store} (readable : one.Readable exporter timeReceived sets store) :
    decode exporter timeReceived (one.message (PlainSet.encodeAll one.version sets)) store
      = decode exporter timeReceived (other.message (PlainSet.encodeAll other.version sets)) store := by
  rw [Header.decode_message oneFits, Header.decode_message otherFits]
  calc (one.session exporter timeReceived).sets (PlainSet.encodeAll one.version sets) store
      = Decoded.sequence (fun set => (one.session exporter timeReceived).set (set.raw one.version)) sets store :=
        (one.session exporter timeReceived).sets_encodeAll fit store
    _ = Decoded.sequence (fun set => (other.session exporter timeReceived).set (set.raw other.version)) sets store := by
        refine Decoded.sequence_congr_of_meets readable fun set mem store needed => ?_
        unfold Header.session
        rw [← domain]
        exact Session.set_either (fit set mem) needed
    _ = (other.session exporter timeReceived).sets (PlainSet.encodeAll other.version sets) store :=
        ((other.session exporter timeReceived).sets_encodeAll fit store).symm

/-- Two templates are announced, one under a number that no data set has. Records follow by the other, by one that IPFIX
announced with an enterprise and a width of the value's own, and by one that nobody announced. The second data set is cut
off within a value. -/
theorem decode_in_either_version_learned :
    let exporter : IpAddress := .v4 ⟨192, 0, 2, 1⟩
    let v9 : Header := ⟨.v9, 7, List.replicate 14 1, rfl⟩
    let ipfix : Header := ⟨.ipfix, 7, List.replicate 8 2, rfl⟩
    let learned : PlainTemplate := ⟨256, [⟨8, 4, none⟩, ⟨7, 2, none⟩], by decide, by decide⟩
    let useless : PlainTemplate := ⟨100, [⟨8, 4, none⟩], by decide, by decide⟩
    let named : Template := ⟨.data, [⟨8, 4, none⟩, ⟨8, 1, some 9⟩, ⟨82, 0xffff, none⟩]⟩
    let store := (∅ : Store).upsert ⟨exporter, 7, 300⟩ named
    let sets : List PlainSet := [.templates [useless, learned] [0, 0] (by decide),
      .data 256 ([10, 0, 0, 1, 0, 80] ++ [10, 0, 0, 2, 0, 81] ++ [0]) (by decide),
      .data 300 ([10, 0, 0, 3, 9, 2, 101, 48] ++ [10, 0, 0, 4, 9, 7, 101]) (by decide),
      .data 999 [1, 2, 3] (by decide)]
    let asV9 := decode exporter 0 (v9.message (PlainSet.encodeAll .v9 sets)) store
    let asIpfix := decode exporter 0 (ipfix.message (PlainSet.encodeAll .ipfix sets)) store
    v9.domain = ipfix.domain ∧ (∀ set ∈ sets, set.Fits)
      ∧ v9.Fits (PlainSet.encodeAll .v9 sets) ∧ ipfix.Fits (PlainSet.encodeAll .ipfix sets)
      ∧ v9.Readable exporter 0 sets store
      ∧ asV9 = asIpfix
      ∧ asIpfix.1.records.map FlowRecord.sourcePort = [80, 81, 0] ∧ asIpfix.1.templatesUpserted = 1
      ∧ asIpfix.1.errors = [.truncated .dataRecord 7 1, .unknownTemplate 7 999]
      ∧ asIpfix.2 = store.upsert ⟨exporter, 7, 256⟩ ⟨.data, learned.fields⟩ := by
  intro exporter v9 ipfix learned useless named store sets asV9 asIpfix
  have fit : ∀ set ∈ sets, set.Fits := by decide
  have v9Fits : v9.Fits (PlainSet.encodeAll .v9 sets) := fun ipfix => by cases ipfix
  have ipfixFits : ipfix.Fits (PlainSet.encodeAll .ipfix sets) := fun _ => by decide
  have readable : v9.Readable exporter 0 sets store := by decide +kernel
  have same : asV9 = asIpfix := decode_in_either_version v9 ipfix rfl fit v9Fits ipfixFits readable
  exact ⟨rfl, fit, v9Fits, ipfixFits, readable, same, by decide +kernel, by decide +kernel, by decide +kernel,
    by decide +kernel⟩

end Netflow

end FlowCollector
