import FlowCollector.Proofs.Packet
import FlowCollector.Proofs.Store

/-!
# Exporters and domains apart

What one exporter says in one of its domains is decoded as if nobody else sent anything. The main
statement compares two runs over one store: all datagrams, and only those of the exporter and the domain.
What came of the latter is the same in both, and so is what is known of the domain in the end.

Two properties of a step carry it. A step of the domain `Heeds` it: run over stores that agree on the
domain it gives the same and leaves stores that agree on it. A step of any other `Spares` it: the domain
is left as it was. That is not one property of all steps, since a step heeds its own domain only.
-/

set_option autoImplicit false

namespace FlowCollector

/-- Two stores that know the same of an exporter's domain: the same templates under `TemplateKey`, and the same rates
under `SamplerKey`. -/
structure Store.Agree (exporter : IpAddress) (domain : UInt32) (s t : Store) : Prop where
  templates : ∀ id, s.lookup? ⟨exporter, domain, id⟩ = t.lookup? ⟨exporter, domain, id⟩
  rates : ∀ sampler, s.rate? ⟨exporter, domain, sampler⟩ = t.rate? ⟨exporter, domain, sampler⟩

namespace Store.Agree

variable {exporter : IpAddress} {domain : UInt32} {s t u : Store}

theorem refl (s : Store) : Agree exporter domain s s := ⟨fun _ => rfl, fun _ => rfl⟩

theorem trans (h : Agree exporter domain s t) (h' : Agree exporter domain t u) :
    Agree exporter domain s u :=
  ⟨fun id => (h.templates id).trans (h'.templates id),
   fun sampler => (h.rates sampler).trans (h'.rates sampler)⟩

/-! ## What keeps two stores in agreement -/

theorem upsert (h : Agree exporter domain s t) (key : TemplateKey) (template : Template) :
    Agree exporter domain (s.upsert key template) (t.upsert key template) := by
  refine ⟨fun id => ?_, h.rates⟩
  by_cases same : TemplateKey.mk exporter domain id = key
  · rw [same, lookup?_upsert_self, lookup?_upsert_self]
  · rw [lookup?_upsert_of_ne same, lookup?_upsert_of_ne same, h.templates]

theorem remove (h : Agree exporter domain s t) (key : TemplateKey) :
    Agree exporter domain (s.remove key) (t.remove key) := by
  refine ⟨fun id => ?_, h.rates⟩
  by_cases same : TemplateKey.mk exporter domain id = key
  · rw [same, lookup?_remove_self, lookup?_remove_self]
  · rw [lookup?_remove_of_ne same, lookup?_remove_of_ne same, h.templates]

theorem removeDomain (h : Agree exporter domain s t) (other : IpAddress) (otherDomain : UInt32) :
    Agree exporter domain (s.removeDomain other otherDomain) (t.removeDomain other otherDomain) := by
  refine ⟨fun id => ?_, h.rates⟩
  rw [lookup?_removeDomain, lookup?_removeDomain, h.templates]

theorem setRate (h : Agree exporter domain s t) (key : SamplerKey) (rate : UInt64) :
    Agree exporter domain (s.setRate key rate) (t.setRate key rate) := by
  refine ⟨h.templates, fun sampler => ?_⟩
  by_cases same : SamplerKey.mk exporter domain sampler = key
  · rw [same, rate?_setRate_self, rate?_setRate_self]
  · rw [rate?_setRate_of_ne same, rate?_setRate_of_ne same, h.rates]

/-! ## What a change elsewhere leaves alone -/

theorem of_upsert {key : TemplateKey} (apart : ¬ (key.exporter = exporter ∧ key.domain = domain))
    (store : Store) (template : Template) :
    Agree exporter domain (store.upsert key template) store :=
  ⟨fun id => lookup?_upsert_of_ne (by rintro rfl; exact apart ⟨rfl, rfl⟩) store template,
   fun _ => rfl⟩

theorem of_remove {key : TemplateKey} (apart : ¬ (key.exporter = exporter ∧ key.domain = domain))
    (store : Store) : Agree exporter domain (store.remove key) store :=
  ⟨fun id => lookup?_remove_of_ne (by rintro rfl; exact apart ⟨rfl, rfl⟩) store, fun _ => rfl⟩

theorem of_removeDomain {other : IpAddress} {otherDomain : UInt32}
    (apart : ¬ (other = exporter ∧ otherDomain = domain)) (store : Store) :
    Agree exporter domain (store.removeDomain other otherDomain) store := by
  refine ⟨fun id => ?_, fun _ => rfl⟩
  rw [lookup?_removeDomain, if_neg fun same => apart ⟨same.1.symm, same.2.symm⟩]

theorem of_setRate {key : SamplerKey} (apart : ¬ (key.exporter = exporter ∧ key.domain = domain))
    (store : Store) (rate : UInt64) : Agree exporter domain (store.setRate key rate) store :=
  ⟨fun _ => rfl,
   fun sampler => rate?_setRate_of_ne (by rintro rfl; exact apart ⟨rfl, rfl⟩) store rate⟩

end Store.Agree

open Store (Agree)

/-- What a step gives hangs on what is known of the domain, and on nothing else: over stores that `Agree` it gives the
same, and leaves stores that do. -/
def Heeds (exporter : IpAddress) (domain : UInt32) (step : Store → Decoded × Store) : Prop :=
  ∀ s t, Agree exporter domain s t →
    (step s).1 = (step t).1 ∧ Agree exporter domain (step s).2 (step t).2

/-- A step changes nothing that is known of the domain. Steps of other domains do. -/
def Spares (exporter : IpAddress) (domain : UInt32) (step : Store → Decoded × Store) : Prop :=
  ∀ store, Agree exporter domain (step store).2 store

section Steps

variable {exporter : IpAddress} {domain : UInt32} {α : Type}

theorem heeds_const (decoded : Decoded) : Heeds exporter domain fun store => (decoded, store) :=
  fun _ _ h => ⟨rfl, h⟩

theorem spares_const (decoded : Decoded) : Spares exporter domain fun store => (decoded, store) :=
  fun store => Agree.refl store

/-- What a step gives may be added to without a look at the store, so errors that are known beforehand do no harm. -/
theorem Heeds.append {step : Store → Decoded × Store} (h : Heeds exporter domain step)
    (more : Decoded) :
    Heeds exporter domain fun store => ((step store).1 ++ more, (step store).2) :=
  fun s t agree => ⟨congrArg (· ++ more) (h s t agree).1, (h s t agree).2⟩

theorem Heeds.sequence {part : α → Store → Decoded × Store} (h : ∀ item, Heeds exporter domain (part item))
    (items : List α) : Heeds exporter domain (Decoded.sequence part items) := by
  induction items with
  | nil => exact heeds_const .nothing
  | cons item others ih =>
    intro s t agree
    obtain ⟨same, agree⟩ := h item s t agree
    obtain ⟨sameRest, agree⟩ := ih _ _ agree
    refine ⟨?_, agree⟩
    simp only [Decoded.sequence, same, sameRest]

theorem Spares.sequence {part : α → Store → Decoded × Store}
    (h : ∀ item, Spares exporter domain (part item)) (items : List α) :
    Spares exporter domain (Decoded.sequence part items) := by
  induction items with
  | nil => exact spares_const .nothing
  | cons item others ih =>
    intro store
    exact (ih _).trans (h item store)

end Steps

/-! ## A session heeds its own domain and spares all others -/

namespace Netflow.Session

variable (session : Session)

section Own

theorem heeds_announce (said : Announcement) :
    Heeds session.exporter session.domain (session.announce said) := by
  intro s t agree
  cases said with
  | define id template =>
    by_cases usable : leastDataSetId ≤ id
    · simp only [announce, if_pos usable]
      exact ⟨trivial, agree.upsert _ template⟩
    · simp only [announce, if_neg usable]
      exact ⟨trivial, agree⟩
  | withdraw id =>
    simp only [announce]
    split
    · exact ⟨rfl, agree.removeDomain _ _⟩
    · split
      · exact ⟨rfl, agree.remove _⟩
      · exact ⟨rfl, agree⟩
  | blank => exact ⟨rfl, agree⟩

theorem heeds_announceAll (said : List Announcement × Option DecodeError) :
    Heeds session.exporter session.domain (session.announceAll said) :=
  (Heeds.sequence session.heeds_announce said.1).append (.ofErrors said.2.toList)

theorem samplingRate_agree {s t : Store} (agree : Agree session.exporter session.domain s t)
    (state : FieldState) : session.samplingRate state s = session.samplingRate state t := by
  unfold samplingRate
  rw [samplerKey, agree.rates]

theorem heeds_record (template : Template) (values : List Bytes) :
    Heeds session.exporter session.domain (session.record template values) := by
  intro s t agree
  unfold record
  dsimp only
  split
  · split
    · exact ⟨rfl, agree.setRate _ _⟩
    · exact ⟨rfl, agree⟩
  · rw [session.samplingRate_agree agree]
    exact ⟨rfl, agree⟩

theorem heeds_dataRecords (template : Template) (body : Bytes) :
    Heeds session.exporter session.domain (session.dataRecords template body) := by
  unfold dataRecords
  split
  · exact heeds_const _
  · have records := Heeds.sequence (session.heeds_record template) (DataRecord.split template body).1
    exact records.append (.ofErrors (DataRecord.split template body).2.toList)

/-- The template is found by `Session.key`, which names the session's own domain, so two stores that `Agree` find the
same. -/
theorem heeds_dataSet (id : UInt16) (body : Bytes) :
    Heeds session.exporter session.domain (session.dataSet id body) := by
  intro s t agree
  unfold dataSet
  rw [key, agree.templates id]
  split
  · exact ⟨rfl, agree⟩
  · exact session.heeds_dataRecords _ body s t agree

theorem heeds_set (raw : RawSet) : Heeds session.exporter session.domain (session.set raw) := by
  intro s t agree
  unfold set
  split
  · exact session.heeds_announceAll _ s t agree
  · split
    · exact session.heeds_announceAll _ s t agree
    · split
      · exact session.heeds_dataSet _ _ s t agree
      · exact ⟨rfl, agree⟩

theorem heeds_sets (body : Bytes) : Heeds session.exporter session.domain (session.sets body) :=
  (Heeds.sequence session.heeds_set (RawSet.split body).1).append (.ofErrors (RawSet.split body).2.toList)

end Own

section Others

variable {session} {exporter : IpAddress} {domain : UInt32}

theorem spares_announce (apart : ¬ (session.exporter = exporter ∧ session.domain = domain))
    (said : Announcement) : Spares exporter domain (session.announce said) := by
  intro store
  cases said with
  | define id template =>
    by_cases usable : leastDataSetId ≤ id
    · simp only [announce, if_pos usable]
      exact .of_upsert apart store template
    · simp only [announce, if_neg usable]
      exact .refl store
  | withdraw id =>
    simp only [announce]
    split
    · exact .of_removeDomain apart store
    · split
      · exact .of_remove apart store
      · exact .refl store
  | blank => exact .refl store

theorem spares_announceAll (apart : ¬ (session.exporter = exporter ∧ session.domain = domain))
    (said : List Announcement × Option DecodeError) :
    Spares exporter domain (session.announceAll said) :=
  Spares.sequence (spares_announce apart) said.1

theorem spares_record (apart : ¬ (session.exporter = exporter ∧ session.domain = domain))
    (template : Template) (values : List Bytes) :
    Spares exporter domain (session.record template values) := by
  intro store
  unfold record
  dsimp only
  split
  · split
    · exact .of_setRate apart store _
    · exact .refl store
  · exact .refl store

theorem spares_dataSet (apart : ¬ (session.exporter = exporter ∧ session.domain = domain))
    (id : UInt16) (body : Bytes) : Spares exporter domain (session.dataSet id body) := by
  intro store
  unfold dataSet
  split
  · exact .refl store
  · unfold dataRecords
    split
    · exact .refl store
    · exact Spares.sequence (spares_record apart _) _ store

theorem spares_set (apart : ¬ (session.exporter = exporter ∧ session.domain = domain))
    (raw : RawSet) : Spares exporter domain (session.set raw) := by
  intro store
  unfold set
  split
  · exact spares_announceAll apart _ store
  · split
    · exact spares_announceAll apart _ store
    · split
      · exact spares_dataSet apart _ _ store
      · exact .refl store

theorem spares_sets (apart : ¬ (session.exporter = exporter ∧ session.domain = domain))
    (body : Bytes) : Spares exporter domain (session.sets body) :=
  Spares.sequence (spares_set apart) _

end Others

end Netflow.Session

/-! ## Datagrams -/

section Datagrams

open Netflow

variable {exporter : IpAddress} {domain : UInt32}

theorem heeds_decodeMessage {version : Version} {payload : Bytes} (timeReceived : UInt64)
    (own : ∀ body, Body.ofPayload version payload = .ok body → body.domain = domain) :
    Heeds exporter domain (decodeMessage version exporter timeReceived payload) := by
  intro s t agree
  unfold decodeMessage
  cases read : Body.ofPayload version payload with
  | error error => exact ⟨rfl, agree⟩
  | ok body =>
    obtain rfl := own body read
    obtain ⟨same, agree⟩ :=
      Session.heeds_sets ⟨version, exporter, body.domain, timeReceived⟩ body.sets s t agree
    exact ⟨congrArg (Decoded.ofErrors body.cutOff.toList ++ ·) same, agree⟩

theorem spares_decodeMessage {version : Version} {sender : IpAddress} {payload : Bytes}
    (timeReceived : UInt64)
    (apart : ∀ body, Body.ofPayload version payload = .ok body →
      ¬ (sender = exporter ∧ body.domain = domain)) :
    Spares exporter domain (decodeMessage version sender timeReceived payload) := by
  intro store
  unfold decodeMessage
  cases read : Body.ofPayload version payload with
  | error error => exact .refl store
  | ok body =>
    let session : Session := ⟨version, sender, body.domain, timeReceived⟩
    have other : ¬ (session.exporter = exporter ∧ session.domain = domain) := apart body read
    exact session.spares_sets other body.sets store

/-- True of the messages of an exporter about a domain of its own, as the header of the payload names it. -/
def Packet.isFrom (packet : Packet) (exporter : IpAddress) (domain : UInt32) : Bool :=
  packet.protocol == .netflow && packet.exporter == exporter
    && headerDomain? packet.payload == some domain

theorem Packet.isFrom_iff {packet : Packet} : packet.isFrom exporter domain
    ↔ packet.protocol = .netflow ∧ packet.exporter = exporter
      ∧ headerDomain? packet.payload = some domain := by
  simp [isFrom, and_assoc]

theorem Packet.heeds_decode {packet : Packet} (h : packet.isFrom exporter domain) :
    Heeds exporter domain packet.decode := by
  obtain ⟨protocol, sender, timeReceived, payload⟩ := packet
  obtain ⟨rfl, rfl, named⟩ := isFrom_iff.1 h
  intro s t agree
  -- Only versions 9 and 10 look at the store, and their session is of the domain that the header names.
  simp only [decode, Protocol.decode, Netflow.decode]
  cases number : (Reader.u16 .header).run payload with
  | error error => exact ⟨rfl, agree⟩
  | ok found =>
    obtain ⟨version, rest⟩ := found
    have first := toNat_version number
    dsimp only
    split
    · exact ⟨rfl, agree⟩
    · split
      case isTrue nine =>
        rw [nine] at first
        refine heeds_decodeMessage timeReceived (fun body read => ?_) s t agree
        exact Option.some.inj ((headerDomain?_of_v9 first read).symm.trans named)
      · split
        case isTrue ten =>
          rw [ten] at first
          refine heeds_decodeMessage timeReceived (fun body read => ?_) s t agree
          exact Option.some.inj ((headerDomain?_of_ipfix first read).symm.trans named)
        · exact ⟨rfl, agree⟩

theorem Packet.spares_decode {packet : Packet} (h : ¬ packet.isFrom exporter domain) :
    Spares exporter domain packet.decode := by
  obtain ⟨protocol, sender, timeReceived, payload⟩ := packet
  intro store
  cases protocol with
  | sflow => exact .refl store
  | netflow =>
    have apart : ¬ (sender = exporter ∧ headerDomain? payload = some domain) :=
      fun own => h (isFrom_iff.2 ⟨rfl, own⟩)
    simp only [decode, Protocol.decode, Netflow.decode]
    cases number : (Reader.u16 .header).run payload with
    | error error => exact .refl store
    | ok found =>
      obtain ⟨version, rest⟩ := found
      have first := toNat_version number
      dsimp only
      split
      · exact .refl store
      · split
        case isTrue nine =>
          rw [nine] at first
          refine spares_decodeMessage timeReceived (fun body read own => ?_) store
          exact apart ⟨own.1, own.2 ▸ headerDomain?_of_v9 first read⟩
        · split
          case isTrue ten =>
            rw [ten] at first
            refine spares_decodeMessage timeReceived (fun body read own => ?_) store
            exact apart ⟨own.1, own.2 ▸ headerDomain?_of_ipfix first read⟩
          · exact .refl store

/-- Two runs over stores that `Agree` on a domain, one with all datagrams and one with those of the domain only. A
datagram of the domain is decoded by both, which `Heeds` keeps in agreement, and any other by the first run alone,
which `Spares` does. -/
theorem Packet.decodeAll_agree (packets : List Packet) {s t : Store}
    (agree : Agree exporter domain s t) :
    (decodeAll packets s).1.filter (fun outcome => outcome.1.isFrom exporter domain)
        = (decodeAll (packets.filter fun packet => packet.isFrom exporter domain) t).1
      ∧ Agree exporter domain (decodeAll packets s).2
          (decodeAll (packets.filter fun packet => packet.isFrom exporter domain) t).2 := by
  induction packets generalizing s t with
  | nil => exact ⟨rfl, agree⟩
  | cons packet others ih =>
    by_cases own : packet.isFrom exporter domain
    · obtain ⟨same, agree⟩ := heeds_decode own s t agree
      obtain ⟨sameRest, agree⟩ := ih agree
      simp only [decodeAll, List.filter_cons, own, if_true]
      exact ⟨by rw [same, sameRest], agree⟩
    · -- The second run does not decode this one, and the first knows no more of the domain for it.
      obtain ⟨sameRest, agree⟩ := ih ((spares_decode own s).trans agree)
      simp only [decodeAll, List.filter_cons, own, Bool.false_eq_true, if_false]
      exact ⟨sameRest, agree⟩

end Datagrams

/-- Whatever else `Packet.decodeAll` decodes over the same store, in whatever order: what comes of the messages of an
exporter about a domain (`Packet.isFrom`), and what is known of the domain in the end, is the same as without the
rest. -/
theorem decodeAll_isolated (exporter : IpAddress) (domain : UInt32) (packets : List Packet)
    (store : Store) :
    let own := packets.filter fun packet => packet.isFrom exporter domain
    (Packet.decodeAll packets store).1.filter (fun outcome => outcome.1.isFrom exporter domain)
        = (Packet.decodeAll own store).1
      ∧ (∀ id, (Packet.decodeAll packets store).2.lookup? ⟨exporter, domain, id⟩
          = (Packet.decodeAll own store).2.lookup? ⟨exporter, domain, id⟩)
      ∧ ∀ sampler, (Packet.decodeAll packets store).2.rate? ⟨exporter, domain, sampler⟩
          = (Packet.decodeAll own store).2.rate? ⟨exporter, domain, sampler⟩ := by
  intro own
  obtain ⟨same, agree⟩ := Packet.decodeAll_agree packets (Agree.refl store)
  exact ⟨same, agree.templates, agree.rates⟩

end FlowCollector
