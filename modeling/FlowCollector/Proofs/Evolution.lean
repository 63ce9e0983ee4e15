import FlowCollector.Proofs.Netflow.Framing
import FlowCollector.Proofs.Packet
import FlowCollector.Proofs.Reader.Properties
import FlowCollector.Proofs.Store

/-!
# What decoding does to a store

However a datagram is made, decoding it changes the store by four kinds of step: a template is kept under
a number that data sets can have, a template is dropped, those of a domain are dropped, or a rate that is
not zero is remembered. `Store.Evolves` is the chain of such steps, and it counts the first kind.

That decoding is such a chain is shown once, and what is true of every store that decoding can reach is
an induction over the chain. It is not shown again for each of the three readers of templates: that a
template is sound is all that a step says of it.
-/

set_option autoImplicit false

namespace FlowCollector

open Netflow

/-! ## Templates that can be announced -/

/-- What is true of every template that can be announced: one of data has a field, one of options no larger scope than
fields, and the number of an enterprise's element does without `enterpriseBit`. -/
structure Template.Sound (template : Template) : Prop where
  nonempty : template.kind = .data → 1 ≤ template.fields.length
  scope_le : template.scopeFields ≤ template.fields.length
  numbered : ∀ field ∈ template.fields, field.enterprise ≠ none →
    field.fieldType < Announcement.enterpriseBit

namespace Netflow.Announcement

/-- What is true of an announcement: a `define` has a template that is `Template.Sound`, and the others have none. -/
def Sound : Announcement → Prop
  | .define _ template => template.Sound
  | .withdraw _ => True
  | .blank => True

theorem and_not_enterpriseBit_lt (number : UInt16) : number &&& ~~~enterpriseBit < enterpriseBit := by
  rw [UInt16.lt_iff_toNat_lt, UInt16.toNat_and]
  exact Nat.lt_of_le_of_lt Nat.and_le_right (by decide)

theorem gives_readField (version : Version) :
    Reader.Gives (readField version) fun field =>
      field.enterprise ≠ none → field.fieldType < enterpriseBit := by
  unfold readField
  refine .skip fun number => .skip fun length => ?_
  cases version with
  | v9 =>
    dsimp only
    split
    · exact .fail _
    · exact .pure fun owned => absurd rfl owned
  | ipfix =>
    dsimp only
    split
    · exact .skip fun enterprise => .pure fun _ => and_not_enterpriseBit_lt number
    · exact .pure fun owned => absurd rfl owned

theorem gives_readFields (version : Version) (count : Nat) :
    Reader.Gives (readFields version count) fun fields =>
      fields.length = count ∧ ∀ field ∈ fields, field.enterprise ≠ none →
        field.fieldType < enterpriseBit := by
  unfold readFields
  refine .skip fun remaining => ?_
  split
  · exact .fail _
  · exact (gives_readField version).times count

theorem gives_readTemplate (version : Version) : Reader.Gives (readTemplate version) Sound := by
  unfold readTemplate
  refine .skip fun id => .skip fun count => ?_
  split
  · cases version <;> exact .pure trivial
  · rename_i some_field
    refine (gives_readFields version count.toNat).bind fun fields read => .pure ?_
    -- A count of zero was a withdrawal, or nothing at all, above.
    have positive : 1 ≤ count.toNat := by
      have : count.toNat ≠ 0 := fun zero => some_field (UInt16.toNat_inj.1 zero)
      omega
    exact Template.Sound.mk (fun _ => read.1 ▸ positive) (Nat.zero_le _) read.2

theorem gives_readOptionsTemplate (version : Version) :
    Reader.Gives (readOptionsTemplate version) Sound := by
  cases version with
  | v9 =>
    show Reader.Gives readOptionsTemplateV9 Sound
    unfold readOptionsTemplateV9
    refine .skip fun id => .skip fun scope => .skip fun options => .skip fun remaining => ?_
    split
    · exact .fail _
    · refine (gives_readFields .v9 _).bind fun fields read => .pure ?_
      refine Template.Sound.mk (fun data => nomatch data) ?_ read.2
      show scope.toNat / 4 ≤ fields.length
      rw [read.1]
      exact Nat.le_add_right _ _
  | ipfix =>
    show Reader.Gives readOptionsTemplateIpfix Sound
    unfold readOptionsTemplateIpfix
    refine .skip fun id => .skip fun count => ?_
    dsimp only
    split
    · exact .pure trivial
    · refine .skip fun scope => ?_
      split
      · exact .fail _
      · rename_i within
        refine (gives_readFields .ipfix _).bind fun fields read => .pure ?_
        refine Template.Sound.mk (fun data => nomatch data) ?_ read.2
        show scope.toNat ≤ fields.length
        rw [read.1]
        exact Nat.not_lt.1 within

end Netflow.Announcement

/-! ## Steps -/

/-- How a store can become another by decoding, with how many templates are kept on the way. Only `upsert` counts, and
it asks that the template is sound and its number that of a data set. -/
inductive Store.Evolves (start : Store) : Nat → Store → Prop
  | refl : Evolves start 0 start
  | upsert {count : Nat} {store : Store} {key : TemplateKey} {template : Template}
    (before : Evolves start count store) (usable : leastDataSetId ≤ key.id) (sound : template.Sound) :
    Evolves start (count + 1) (store.upsert key template)
  | remove {count : Nat} {store : Store} (before : Evolves start count store) (key : TemplateKey) :
    Evolves start count (store.remove key)
  | removeDomain {count : Nat} {store : Store} (before : Evolves start count store)
    (exporter : IpAddress) (domain : UInt32) :
    Evolves start count (store.removeDomain exporter domain)
  | setRate {count : Nat} {store : Store} {rate : UInt64} (before : Evolves start count store)
    (key : SamplerKey) (positive : 0 < rate) : Evolves start count (store.setRate key rate)

theorem Store.Evolves.trans {m n : Nat} {s t u : Store} (first : s.Evolves m t)
    (second : t.Evolves n u) : s.Evolves (m + n) u := by
  induction second with
  | refl => exact first
  | upsert _ usable sound ih => exact ih.upsert usable sound
  | remove _ key ih => exact ih.remove key
  | removeDomain _ exporter domain ih => exact ih.removeDomain exporter domain
  | setRate _ key positive ih => exact ih.setRate key positive

/-- A step of decoding evolves the store, and reports as `templatesUpserted` how many templates it kept. -/
def Evolving (step : Store → Decoded × Store) : Prop :=
  ∀ store : Store, store.Evolves (step store).1.templatesUpserted (step store).2

namespace Evolving

theorem const {decoded : Decoded} (kept_none : decoded.templatesUpserted = 0) :
    Evolving fun store => (decoded, store) := by
  intro store
  show store.Evolves decoded.templatesUpserted store
  rw [kept_none]
  exact .refl

theorem append {step : Store → Decoded × Store} (h : Evolving step) {more : Decoded}
    (kept_none : more.templatesUpserted = 0) :
    Evolving fun store => ((step store).1 ++ more, (step store).2) := by
  intro store
  show store.Evolves ((step store).1 ++ more).templatesUpserted (step store).2
  rw [Decoded.templatesUpserted_append, kept_none]
  exact h store

theorem prepend {step : Store → Decoded × Store} (h : Evolving step) {more : Decoded}
    (kept_none : more.templatesUpserted = 0) :
    Evolving fun store => (more ++ (step store).1, (step store).2) := by
  intro store
  show store.Evolves (more ++ (step store).1).templatesUpserted (step store).2
  rw [Decoded.templatesUpserted_append, kept_none, Nat.zero_add]
  exact h store

theorem sequence {α : Type} {part : α → Store → Decoded × Store} {items : List α}
    (h : ∀ item ∈ items, Evolving (part item)) : Evolving (Decoded.sequence part items) := by
  induction items with
  | nil => exact const rfl
  | cons item others ih =>
    intro store
    have first := h item List.mem_cons_self store
    have rest := ih (fun item' mem => h item' (List.mem_cons_of_mem item mem)) (part item store).2
    exact first.trans rest

end Evolving

namespace Netflow.Session

variable (session : Session)

theorem evolving_announce {said : Announcement} (sound : said.Sound) :
    Evolving (session.announce said) := by
  intro store
  cases said with
  | define id template =>
    by_cases usable : leastDataSetId ≤ id
    · simp only [announce, if_pos usable]
      exact Store.Evolves.refl.upsert usable sound
    · simp only [announce, if_neg usable]
      exact .refl
  | withdraw id =>
    simp only [announce]
    split
    · exact Store.Evolves.refl.removeDomain _ _
    · split
      · exact Store.Evolves.refl.remove _
      · exact .refl
  | blank => exact .refl

theorem evolving_announceAll {said : List Announcement × Option DecodeError}
    (sound : ∀ one ∈ said.1, one.Sound) : Evolving (session.announceAll said) :=
  (Evolving.sequence fun one mem => session.evolving_announce (sound one mem)).append rfl

theorem evolving_record (template : Template) (values : List Bytes) :
    Evolving (session.record template values) := by
  intro store
  unfold record
  dsimp only
  split
  · split
    · rename_i rate own
      have positive : 0 < rate := of_decide_eq_true (Option.filter_eq_some_iff.1 own).2
      exact Store.Evolves.refl.setRate _ positive
    · exact .refl
  · exact .refl

theorem evolving_dataSet (id : UInt16) (body : Bytes) : Evolving (session.dataSet id body) := by
  intro store
  unfold dataSet
  split
  · exact .refl
  · rename_i template known
    unfold dataRecords
    split
    · exact .refl
    · have records := Evolving.sequence fun values (_ : values ∈ (DataRecord.split template body).1) =>
        session.evolving_record template values
      exact records.append rfl store

theorem evolving_set (raw : RawSet) : Evolving (session.set raw) := by
  intro store
  unfold set
  split
  · refine session.evolving_announceAll ?_ store
    exact (Announcement.gives_readTemplate session.version).many 4 raw.body
  · split
    · refine session.evolving_announceAll ?_ store
      exact (Announcement.gives_readOptionsTemplate session.version).many _ raw.body
    · split
      · exact session.evolving_dataSet _ _ store
      · exact .refl

theorem evolving_sets (body : Bytes) : Evolving (session.sets body) :=
  (Evolving.sequence fun raw _ => session.evolving_set raw).append rfl

end Netflow.Session

/-! ## Datagrams -/

theorem Sflow.templatesUpserted_decode (exporter : IpAddress) (timeReceived : UInt64)
    (payload : Bytes) : (Sflow.decode exporter timeReceived payload).templatesUpserted = 0 := by
  have flow : ∀ result : FlowSample.Result, result.toDecoded.templatesUpserted = 0 := by
    intro result
    unfold FlowSample.Result.toDecoded
    split <;> rfl
  have sample : ∀ raw : RawSample, (raw.decode exporter timeReceived).templatesUpserted = 0 := by
    intro raw
    cases raw with
    | overlong declared available => rfl
    | framed format body =>
      simp only [RawSample.decode]
      split
      · exact flow _
      · rfl
  unfold Sflow.decode
  split
  · rfl
  · refine Decoded.templatesUpserted_foldr (fun part mem => ?_) rfl
    obtain ⟨raw, -, rfl⟩ := List.mem_map.1 mem
    exact sample raw

theorem Netflow.Version5.templatesUpserted_decode (exporter : IpAddress) (timeReceived : UInt64)
    (payload : Bytes) : (Version5.decode exporter timeReceived payload).templatesUpserted = 0 := by
  unfold Version5.decode
  split
  · rfl
  · refine Decoded.templatesUpserted_foldr (fun part mem => ?_) rfl
    obtain ⟨bytes, -, rfl⟩ := List.mem_map.1 mem
    unfold decodeRecord
    split <;> rfl

theorem Packet.evolving_decode (packet : Packet) : Evolving packet.decode := by
  intro store
  rcases packet.decode_cases with ⟨session, body, -, decoded⟩ | ⟨-, -, decoded⟩ | ⟨-, -, decoded⟩
    | ⟨-, error, decoded⟩
  · rw [decoded]
    exact (session.evolving_sets body.sets).prepend rfl store
  · rw [decoded]
    exact Evolving.const (Sflow.templatesUpserted_decode _ _ _) store
  · rw [decoded]
    exact Evolving.const (Version5.templatesUpserted_decode _ _ _) store
  · rw [decoded]
    exact Evolving.const rfl store

/-- How many templates a run of `Packet.decodeAll` kept, replacements included. -/
def keptBy (outcomes : List (Packet × Decoded)) : Nat :=
  sumOf (fun outcome => outcome.2.templatesUpserted) outcomes

theorem Packet.evolves_decodeAll (packets : List Packet) (store : Store) :
    store.Evolves (keptBy (decodeAll packets store).1) (decodeAll packets store).2 := by
  induction packets generalizing store with
  | nil => exact .refl
  | cons packet others ih => exact (packet.evolving_decode store).trans (ih (packet.decode store).2)

/-! ## Stores that can be reached -/

/-- No rate in the store is zero, so a flow that gets one from there has a rate it can be multiplied by. -/
def Store.RatesPositive (store : Store) : Prop := ∀ key rate, store.rate? key = some rate → 1 ≤ rate

/-- What is true of every store that decoding can reach. `Store.Evolves` keeps it. -/
structure Store.Sound (store : Store) : Prop where
  usable : ∀ key template, store.lookup? key = some template → leastDataSetId ≤ key.id
  templates : ∀ key template, store.lookup? key = some template → template.Sound
  rates : store.RatesPositive

namespace Store

theorem sound_empty : Sound ∅ :=
  ⟨fun _ _ known => (nomatch known), fun _ _ known => (nomatch known), fun _ _ known => (nomatch known)⟩

namespace Evolves

variable {start store : Store} {count : Nat}

theorem ratesPositive (h : start.Evolves count store) (positive : start.RatesPositive) :
    store.RatesPositive := by
  induction h with
  | refl => exact positive
  | upsert _ _ _ ih => exact ih
  | remove _ _ ih => exact ih
  | removeDomain _ _ _ ih => exact ih
  | @setRate _ t rate _ key nonzero ih =>
    intro sought found known
    by_cases same : sought = key
    · rw [same, rate?_setRate_self] at known
      exact Option.some.inj known ▸ nonzero
    · exact ih sought found (rate?_setRate_of_ne same t rate ▸ known)

theorem templates_sound (h : start.Evolves count store)
    (sound : ∀ key template, start.lookup? key = some template →
      leastDataSetId ≤ key.id ∧ template.Sound) :
    ∀ key template, store.lookup? key = some template →
      leastDataSetId ≤ key.id ∧ template.Sound := by
  -- Only keeping a template can break this, and what is kept is sound; dropping one finds less.
  induction h with
  | refl => exact sound
  | @upsert _ t key template _ usable whole ih =>
    intro sought found known
    by_cases same : sought = key
    · rw [same, lookup?_upsert_self] at known
      obtain rfl := Option.some.inj known
      exact ⟨same ▸ usable, whole⟩
    · exact ih sought found (lookup?_upsert_of_ne same t template ▸ known)
  | remove _ key ih => exact fun sought found known => ih sought found (lookup?_of_remove known)
  | removeDomain _ exporter domain ih =>
    exact fun sought found known => ih sought found (lookup?_of_removeDomain known)
  | setRate _ _ _ ih => exact ih

theorem sound (h : start.Evolves count store) (sound : start.Sound) : store.Sound := by
  have templates := h.templates_sound fun key template known =>
    ⟨sound.usable key template known, sound.templates key template known⟩
  exact ⟨fun key template known => (templates key template known).1,
    fun key template known => (templates key template known).2, h.ratesPositive sound.rates⟩

theorem size_le (h : start.Evolves count store) : store.size ≤ start.size + count := by
  induction h with
  | refl => exact Nat.le_refl _
  | @upsert _ t key template _ _ _ ih =>
    have grown : (t.upsert key template).size ≤ t.size + 1 := t.templates.size_insert_le key template
    omega
  | @remove _ t _ key ih => exact Nat.le_trans (t.templates.size_filterKeys_le _) ih
  | @removeDomain _ t _ exporter domain ih => exact Nat.le_trans (t.templates.size_filterKeys_le _) ih
  | setRate _ key positive ih => exact ih

end Evolves

end Store

/-- Whatever `Packet.decodeAll` decodes from an empty store, in whatever order: the store is `Store.Sound` in the end,
which says that its templates have numbers of data sets and are themselves sound and that no rate is zero, and there
are no more templates than were reported as kept (`keptBy`). -/
theorem decodeAll_sound (packets : List Packet) :
    (Packet.decodeAll packets ∅).2.Sound
      ∧ (Packet.decodeAll packets ∅).2.size ≤ keptBy (Packet.decodeAll packets ∅).1 := by
  have evolved := Packet.evolves_decodeAll packets ∅
  constructor
  · exact evolved.sound Store.sound_empty
  · have bound := evolved.size_le
    have empty : (∅ : Store).size = 0 := rfl
    omega

/-- IPFIX announces a data template with an element of an enterprise, and an options template whose record
carries a rate; version 9 replaces the first and announces options of its own; IPFIX withdraws its options.
Two of the four templates are left, and the rate. -/
theorem decodeAll_sound_of_three_datagrams :
    let exporter : IpAddress := .v4 ⟨192, 0, 2, 1⟩
    let ipfix : Header := ⟨.ipfix, 7, List.replicate 8 0, rfl⟩
    let v9 : Header := ⟨.v9, 7, List.replicate 14 0, rfl⟩
    let announced := RawSet.encode ⟨2, [1, 0, 0, 2, 0, 8, 0, 4, 128, 5, 0, 2, 0, 0, 0, 9]⟩
      ++ RawSet.encode ⟨3, [1, 1, 0, 2, 0, 1, 1, 46, 0, 1, 1, 49, 0, 4]⟩
      ++ RawSet.encode ⟨257, [5, 0, 0, 2, 0]⟩
    let replaced := RawSet.encode ⟨0, [1, 0, 0, 1, 0, 8, 0, 4]⟩
      ++ RawSet.encode ⟨1, [1, 2, 0, 4, 0, 4, 0, 1, 0, 4, 0, 34, 0, 4]⟩
    let withdrawn := RawSet.encode ⟨2, [1, 1, 0, 0]⟩
    let packets : List Packet := [⟨.netflow, exporter, 0, ipfix.message announced⟩,
      ⟨.netflow, exporter, 0, v9.message replaced⟩, ⟨.netflow, exporter, 0, ipfix.message withdrawn⟩]
    let run := Packet.decodeAll packets ∅
    let options : Template := ⟨.options 1, [⟨1, 4, none⟩, ⟨34, 4, none⟩]⟩
    run.2.lookup? ⟨exporter, 7, 258⟩ = some options ∧ options.Sound
      ∧ run.2.rate? ⟨exporter, 7, 5⟩ = some 512 ∧ (1 : UInt64) ≤ 512
      ∧ run.2.size = 2 ∧ keptBy run.1 = 4 ∧ run.2.size ≤ keptBy run.1 := by
  intro exporter ipfix v9 announced replaced withdrawn packets run options
  obtain ⟨sound, bound⟩ := decodeAll_sound packets
  have known : run.2.lookup? ⟨exporter, 7, 258⟩ = some options := by decide +kernel
  have learned : run.2.rate? ⟨exporter, 7, 5⟩ = some 512 := by decide +kernel
  exact ⟨known, sound.templates _ _ known, learned, sound.rates _ _ learned, by decide +kernel,
    by decide +kernel, bound⟩

end FlowCollector
