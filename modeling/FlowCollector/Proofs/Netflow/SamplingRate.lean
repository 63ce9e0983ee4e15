import FlowCollector.Proofs.Element
import FlowCollector.Proofs.Netflow.Framing
import FlowCollector.Proofs.Packet
import FlowCollector.Proofs.Reader.Properties
import FlowCollector.Proofs.Store

/-!
# The sampling rate of a record

A record that says no rate of its own has the one that an options record announced for its sampler, maybe
many datagrams ago. The store keeps one rate a sampler and overwrites it. Here nothing is overwritten: a
`Reading` is a record as it was read, the readings of a run are kept in order, and the rate of a sampler
is found by going back through them. Both give the same flow records, over every run.

What a reading says of sampling is found by `lastValue?`, and not by filling in a record. Only the rest
of a flow is what filling in leaves.
-/

set_option autoImplicit false

namespace FlowCollector

namespace Netflow

/-- A complete record of a data set, with the template it was read by and the session it was read in. -/
structure Reading where
  session : Session
  template : Template
  values : List Bytes
  deriving DecidableEq, Repr

/-- A value for each field, and of the width that the field gives, if it gives one. -/
def AllPresent : List FieldSpec → List Bytes → Prop
  | [], [] => True
  | field :: fields, value :: values =>
    (field.isVariable = false → value.length = field.length.toNat) ∧ AllPresent fields values
  | _, _ => False

namespace Reading

/-- No value of the record was cut off: its values are `AllPresent`. -/
def Complete (reading : Reading) : Prop := AllPresent reading.template.fields reading.values

/-- The standard fields of the record, without the scope that version 9 does not read. -/
def fields (reading : Reading) : List (UInt16 × Bytes) :=
  DataRecord.standardFields reading.session.version reading.template reading.values

/-- The rate that the record gives, by `lastValue?`. The last field about it counts, and zero is none. -/
def rate? (reading : Reading) : Option UInt64 :=
  (lastValue? Element.rateNumbers reading.fields).filter (0 < ·)

/-- The sampler that the record is about, by `Session.samplerKey`; it is number 0 if the record names none. -/
def samplerKey (reading : Reading) : SamplerKey :=
  ⟨reading.session.exporter, reading.session.domain,
    (lastValue? Element.samplerNumbers reading.fields).getD 0⟩

/-- The rate that a record announces for a sampler: its `rate?`, if it is an options record about that sampler. -/
def rateFor? (reading : Reading) (key : SamplerKey) : Option UInt64 :=
  if reading.template.isOptions ∧ reading.samplerKey = key then reading.rate? else none

/-- The rate announced last for a sampler, in the order of the readings. -/
def announcedRate? (readings : List Reading) (key : SamplerKey) : Option UInt64 :=
  readings.reverse.findSome? (·.rateFor? key)

/-- The rate that a record was sampled with, where it stands behind others: its own `rate?`, else the `announcedRate?`
of its sampler, else one. -/
def samplingRate (reading : Reading) (earlier : List Reading) : UInt64 :=
  reading.rate?.getD ((announcedRate? earlier reading.samplerKey).getD 1)

/-- What filling in the record leaves, its sampling rate apart. -/
def filled (reading : Reading) : FieldState :=
  (DataRecord.fill reading.session.version reading.template
    (.start reading.session.exporter reading.session.timeReceived) reading.values).1

/-- The flow of a record, with its `samplingRate`. An options record is no flow. -/
def flow? (reading : Reading) (earlier : List Reading) : Option FlowRecord :=
  if reading.template.isOptions then none
  else
    let record := { reading.filled.record with samplingRate := reading.samplingRate earlier }
    some record.inferEtherType

/-- The flows of records that stand behind others. Each sees those in front of it too, by `flow?`. -/
def flows (earlier : List Reading) : List Reading → List FlowRecord
  | [] => []
  | reading :: others => (reading.flow? earlier).toList ++ flows (earlier ++ [reading]) others

theorem flows_append (earlier front back : List Reading) :
    flows earlier (front ++ back) = flows earlier front ++ flows (earlier ++ front) back := by
  induction front generalizing earlier with
  | nil => rw [List.append_nil]; rfl
  | cons reading others ih =>
    simp only [List.cons_append, flows, ih, List.append_assoc, List.nil_append]

theorem flows_singleton (earlier : List Reading) (reading : Reading) :
    flows earlier [reading] = (reading.flow? earlier).toList :=
  List.append_nil _

theorem announcedRate?_append (front back : List Reading) (key : SamplerKey) :
    announcedRate? (front ++ back) key
      = (announcedRate? back key).or (announcedRate? front key) := by
  simp only [announcedRate?, List.reverse_append, List.findSome?_append]

theorem announcedRate?_singleton (reading : Reading) (key : SamplerKey) :
    announcedRate? [reading] key = reading.rateFor? key := by
  simp [announcedRate?]

/-- What is read of items that are decoded in turn by `sequence`, each over the store that the one before it left. -/
def inTurn {α : Type} (part : α → Store → Decoded × Store) (read : α → Store → List Reading) :
    List α → Store → List Reading
  | [], _ => []
  | item :: others, store => read item store ++ inTurn part read others (part item store).2

end Reading

/-! ## What is read -/

namespace Session

/-- The records that a set is read as. Only a data set holds any, and only if its template is known to the store. -/
def setReadings (session : Session) (raw : RawSet) (store : Store) : List Reading :=
  if leastDataSetId ≤ raw.id then
    match store.lookup? (session.key raw.id) with
    | none => []
    | some template =>
      if template.leastRecordLength = 0 then []
      else (DataRecord.split template raw.body).1.map (Reading.mk session template)
  else []

theorem gives_readValues (fields : List FieldSpec) :
    Reader.Gives (DataRecord.readValues fields) (AllPresent fields) := by
  induction fields with
  | nil => exact .pure trivial
  | cons field others ih =>
    have value : Reader.Gives (DataRecord.readValue field) fun value =>
        field.isVariable = false → value.length = field.length.toNat := by
      unfold DataRecord.readValue
      cases own : field.isVariable with
      | true => exact .skip fun _ => (Reader.Gives.anything _).mono fun _ => nofun
      | false => exact (Reader.Gives.take _ _).mono fun _ width _ => width
    exact value.bind fun first width => ih.bind fun values present => .pure ⟨width, present⟩

theorem complete_of_mem_setReadings {session : Session} {raw : RawSet} {store : Store}
    {reading : Reading} (mem : reading ∈ session.setReadings raw store) : reading.Complete := by
  unfold setReadings at mem
  split at mem
  · split at mem
    · cases mem
    · rename_i template known
      split at mem
      · cases mem
      · obtain ⟨values, cut, rfl⟩ := List.mem_map.1 mem
        exact (gives_readValues template.fields).many _ raw.body values cut
  · cases mem

/-- The records that a message is read as, set by set. -/
def readings (session : Session) (body : Bytes) : Store → List Reading :=
  Reading.inTurn session.set session.setReadings (RawSet.split body).1

end Session

end Netflow

open Netflow

namespace Packet

/-- The records that a datagram is read as. Only a message of sets is read by templates, so other formats have no
readings. -/
def readings (packet : Packet) (store : Store) : List Reading :=
  match packet.message? with
  | none => []
  | some (session, body) => session.readings body.sets store

/-- The records that each datagram of a run is read as, over the stores of `Packet.decodeAll`. -/
def readAll : List Packet → Store → List (List Reading)
  | [], _ => []
  | packet :: others, store => packet.readings store :: readAll others (packet.decode store).2

/-- The flows of a datagram that come of a template: all of its records if it is a message of sets, and none
otherwise. -/
def templateFlows (outcome : Packet × Decoded) : List FlowRecord :=
  if outcome.1.message?.isSome then outcome.2.records else []

end Packet

/-- The flows of each datagram of a run, each behind the readings of all datagrams before. -/
def Netflow.Reading.flowsInTurn (earlier : List Reading) : List (List Reading) → List (List FlowRecord)
  | [] => []
  | readings :: others => flows earlier readings :: flowsInTurn (earlier ++ readings) others

/-! ## Steps -/

/-- The store remembers what the readings announced: its rates are their `announcedRate?`s. -/
def Store.Recalls (store : Store) (earlier : List Reading) : Prop :=
  ∀ key, store.rate? key = Reading.announcedRate? earlier key

theorem Store.recalls_empty : Store.Recalls ∅ [] := fun _ => rfl

/-- Decoding that reads some records over a store has the `flows` of those, and changes the rates that are remembered
by those and by nothing else. -/
structure Store.Resolves (store : Store) (readings : List Reading) (found : List FlowRecord)
    (after : Store) : Prop where
  rates : ∀ key, after.rate? key = (Reading.announcedRate? readings key).or (store.rate? key)
  flows : ∀ earlier, store.Recalls earlier → found = Reading.flows earlier readings

namespace Store.Resolves

variable {store after : Store} {readings : List Reading} {found : List FlowRecord}

theorem recalls (h : store.Resolves readings found after) {earlier : List Reading}
    (known : store.Recalls earlier) : after.Recalls (earlier ++ readings) := by
  intro key
  rw [h.rates, known key, Reading.announcedRate?_append]

/-- What reads nothing has no flows, and leaves the rates alone: the case of `Resolves` for sets without data. -/
theorem silent (same : ∀ key, after.rate? key = store.rate? key) : store.Resolves [] [] after :=
  ⟨same, fun _ _ => rfl⟩

theorem trans {last : Store} {readings' : List Reading} {found' : List FlowRecord}
    (first : store.Resolves readings found after) (second : after.Resolves readings' found' last) :
    store.Resolves (readings ++ readings') (found ++ found') last := by
  constructor
  · intro key
    rw [second.rates, first.rates, ← Option.or_assoc, ← Reading.announcedRate?_append]
  · intro earlier known
    rw [first.flows earlier known, second.flows _ (first.recalls known), Reading.flows_append]

theorem sequence {α : Type} {part : α → Store → Decoded × Store} {read : α → Store → List Reading}
    (h : ∀ (item : α) (store : Store), store.Resolves (read item store)
      (part item store).1.records (part item store).2) (items : List α) (store : Store) :
    store.Resolves (Reading.inTurn part read items store)
      (Decoded.sequence part items store).1.records (Decoded.sequence part items store).2 := by
  induction items generalizing store with
  | nil => exact silent fun _ => rfl
  -- The others are read over what the first one left, and that recalls what it announced.
  | cons item others ih => exact (h item store).trans (ih (part item store).2)

/-- Errors that are reported behind are no flows, so they do not matter to `Resolves`. -/
theorem append (h : store.Resolves readings found after) :
    store.Resolves readings (found ++ []) after :=
  (List.append_nil found).symm ▸ h

end Store.Resolves

theorem Netflow.Reading.inTurn_singles {α : Type} (part : α → Store → Decoded × Store)
    (made : α → Reading) (items : List α) (store : Store) :
    inTurn part (fun item _ => [made item]) items store = items.map made := by
  induction items generalizing store with
  | nil => rfl
  | cons item others ih => exact congrArg (made item :: ·) (ih _)

namespace Netflow.Reading

variable (reading : Reading)

/-- What filling in the record leaves of sampling is what the reading says of it, by `rate?` and `samplerKey`. -/
theorem filled_sampling :
    reading.filled.samplingRate.filter (0 < ·) = reading.rate?
      ∧ reading.session.samplerKey (reading.filled.samplerId.getD 0) = reading.samplerKey := by
  obtain ⟨-, rate, sampler⟩ := FieldState.applyFields_frame
    (.start reading.session.exporter reading.session.timeReceived) reading.fields
  have rate : reading.filled.samplingRate = lastValue? Element.rateNumbers reading.fields :=
    rate.trans Option.or_none
  have sampler : reading.filled.samplerId = lastValue? Element.samplerNumbers reading.fields :=
    sampler.trans Option.or_none
  rw [rate, sampler]
  exact ⟨rfl, rfl⟩

/-- A record that says no rate has the one that the store remembers for its `samplerKey`. -/
theorem samplingRate_of_store (store : Store) :
    reading.session.samplingRate reading.filled store
      = reading.rate?.getD ((store.rate? reading.samplerKey).getD 1) := by
  obtain ⟨rate, sampler⟩ := reading.filled_sampling
  rw [Session.samplingRate, rate, sampler]
  cases reading.rate? <;> rfl

theorem samplingRate_filled {store : Store} {earlier : List Reading} (known : store.Recalls earlier) :
    reading.session.samplingRate reading.filled store = reading.samplingRate earlier := by
  rw [reading.samplingRate_of_store, known reading.samplerKey]
  rfl

/-- An options record is no flow, and it changes the rate of one sampler, to its `rateFor?` that. -/
theorem record_of_isOptions (options : reading.template.isOptions = true) (store : Store) :
    (reading.session.record reading.template reading.values store).1.records = []
      ∧ ∀ key, (reading.session.record reading.template reading.values store).2.rate? key
        = (reading.rateFor? key).or (store.rate? key) := by
  obtain ⟨rate, sampler⟩ := reading.filled_sampling
  unfold filled at rate sampler
  simp only [Session.record, options, if_true, rate, sampler, rateFor?, true_and]
  cases reading.rate? with
  | none => exact ⟨rfl, fun key => by rw [ite_self, Option.none_or]⟩
  | some own =>
    refine ⟨rfl, fun key => ?_⟩
    by_cases same : reading.samplerKey = key
    · rw [if_pos same, ← same, Store.rate?_setRate_self, Option.some_or]
    · rw [if_neg same, Store.rate?_setRate_of_ne (Ne.symm same), Option.none_or]

/-- A data record is a flow, the reading's `flow?`, and it changes nothing in the store. -/
theorem record_of_not_isOptions (data : reading.template.isOptions = false) (store : Store) :
    (reading.session.record reading.template reading.values store).2 = store
      ∧ ∀ earlier, store.Recalls earlier →
        (reading.session.record reading.template reading.values store).1.records
          = (reading.flow? earlier).toList := by
  unfold Session.record
  rw [data]
  refine ⟨rfl, fun earlier known => ?_⟩
  rw [flow?, data, ← reading.samplingRate_filled known]
  rfl

end Netflow.Reading

namespace Netflow.Session

variable (session : Session)

theorem resolves_record (template : Template) (values : List Bytes) (store : Store) :
    store.Resolves [⟨session, template, values⟩] (session.record template values store).1.records
      (session.record template values store).2 := by
  let reading : Reading := ⟨session, template, values⟩
  cases kind : template.isOptions with
  | true =>
    obtain ⟨no_flow, learned⟩ := reading.record_of_isOptions kind store
    refine ⟨fun key => ?_, fun earlier known => ?_⟩
    · rw [Reading.announcedRate?_singleton]
      exact learned key
    · rw [Reading.flows_singleton, Reading.flow?, if_pos kind]
      exact no_flow
  | false =>
    obtain ⟨unchanged, flow⟩ := reading.record_of_not_isOptions kind store
    refine ⟨fun key => ?_, fun earlier known => ?_⟩
    · have silent : reading.rateFor? key = none := if_neg fun both => by simp [reading, kind] at both
      rw [Reading.announcedRate?_singleton, silent, Option.none_or]
      exact congrArg (·.rate? key) unchanged
    · rw [Reading.flows_singleton]
      exact flow earlier known

theorem resolves_set (raw : RawSet) (store : Store) :
    store.Resolves (session.setReadings raw store) (session.set raw store).1.records
      (session.set raw store).2 := by
  unfold setReadings
  rcases session.set_cases raw with ⟨usable, data⟩ | ⟨unusable, silent⟩
  · rw [if_pos usable, data, dataSet]
    cases store.lookup? (session.key raw.id) with
    | none => exact .silent fun _ => rfl
    | some template =>
      dsimp only
      rw [dataRecords]
      split
      · exact .silent fun _ => rfl
      · -- The template is looked up once, and no record of the set can change it.
        have records := Store.Resolves.sequence (session.resolves_record template)
          (DataRecord.split template raw.body).1 store
        rw [Reading.inTurn_singles] at records
        exact records.append
  · obtain ⟨no_records, kept⟩ := silent store
    rw [if_neg unusable, no_records]
    exact .silent fun key => congrArg (·.get? key) kept

theorem resolves_sets (body : Bytes) (store : Store) :
    store.Resolves (session.readings body store) (session.sets body store).1.records
      (session.sets body store).2 :=
  (Store.Resolves.sequence session.resolves_set (RawSet.split body).1 store).append

end Netflow.Session

/-! ## Runs -/

namespace Packet

theorem resolves_decode (packet : Packet) (store : Store) :
    store.Resolves (packet.readings store) (templateFlows (packet, (packet.decode store).1))
      (packet.decode store).2 := by
  unfold readings templateFlows
  rcases packet.decode_cases with ⟨session, body, message, decoded⟩ | ⟨message, -, decoded⟩
    | ⟨message, -, decoded⟩ | ⟨message, error, decoded⟩
  · rw [message, decoded]
    exact session.resolves_sets body.sets store
  · rw [message, decoded]
    exact .silent fun _ => rfl
  · rw [message, decoded]
    exact .silent fun _ => rfl
  · rw [message, decoded]
    exact .silent fun _ => rfl

theorem resolves_decodeAll (packets : List Packet) (store : Store) :
    store.Resolves (readAll packets store).flatten
      ((decodeAll packets store).1.flatMap templateFlows) (decodeAll packets store).2 := by
  induction packets generalizing store with
  | nil => exact .silent fun _ => rfl
  | cons packet others ih => exact (packet.resolves_decode store).trans (ih (packet.decode store).2)

theorem map_templateFlows_decodeAll (packets : List Packet) {store : Store} {earlier : List Reading}
    (known : store.Recalls earlier) :
    (decodeAll packets store).1.map templateFlows
      = Reading.flowsInTurn earlier (readAll packets store) := by
  -- On the datagrams. What carries it is that the store recalls the history, which each one lengthens.
  induction packets generalizing store earlier with
  | nil => rfl
  | cons packet others ih =>
    have first := packet.resolves_decode store
    show templateFlows (packet, (packet.decode store).1)
      :: (decodeAll others (packet.decode store).2).1.map templateFlows = _
    rw [first.flows earlier known, ih (first.recalls known)]
    rfl

end Packet

/-- Over a whole run of `Packet.decodeAll`, datagram by datagram, the flows that come of templates are those of the
records that were read (`Reading.flowsInTurn`): each has the rate it gives itself, else the last that was announced
for its sampler before it, else one. What the store remembers in the end is what the readings announced; and over any
store whatever, a set changes no rate but by the complete records it is read as. -/
theorem samplingRates_of_decodeAll (packets : List Packet) :
    (Packet.decodeAll packets ∅).1.map Packet.templateFlows
        = Reading.flowsInTurn [] (Packet.readAll packets ∅)
      ∧ (∀ key, (Packet.decodeAll packets ∅).2.rate? key
        = Reading.announcedRate? (Packet.readAll packets ∅).flatten key)
      ∧ ∀ (session : Session) (raw : RawSet) (store : Store),
        (∀ key, (session.set raw store).2.rate? key
          = (Reading.announcedRate? (session.setReadings raw store) key).or (store.rate? key))
        ∧ ∀ reading ∈ session.setReadings raw store, reading.Complete := by
  refine ⟨Packet.map_templateFlows_decodeAll packets Store.recalls_empty, ?_, ?_⟩
  · exact (Packet.resolves_decodeAll packets ∅).recalls Store.recalls_empty
  · intro session raw store
    exact ⟨(session.resolves_set raw store).rates, fun _ => Session.complete_of_mem_setReadings⟩

/-- One options template of IPFIX, read by both formats. IPFIX reads its scope, so the rate is that of
sampler 5; version 9 does not, and its rate is that of sampler 0. A record with rate 0 and a withdrawal
come later and change nothing. A record that gives 7 itself needs none of them. -/
theorem samplingRates_of_decodeAll_shared_template :
    let exporter : IpAddress := .v4 ⟨192, 0, 2, 1⟩
    let ipfix : Header := ⟨.ipfix, 7, List.replicate 8 0, rfl⟩
    let v9 : Header := ⟨.v9, 7, List.replicate 14 0, rfl⟩
    let announced := RawSet.encode ⟨3, [1, 144, 0, 2, 0, 1, 1, 46, 0, 1, 1, 49, 0, 2]⟩
      ++ RawSet.encode ⟨2, [1, 0, 0, 2, 1, 46, 0, 1, 0, 34, 0, 1]⟩
      ++ RawSet.encode ⟨400, [5, 2, 0]⟩
    let unscoped := RawSet.encode ⟨400, [5, 3, 232]⟩
    let data := RawSet.encode ⟨400, [5, 0, 0]⟩ ++ RawSet.encode ⟨3, [1, 144, 0, 0]⟩
      ++ RawSet.encode ⟨256, [5, 0] ++ [0, 0] ++ [9, 0] ++ [5, 7]⟩
    let packets : List Packet := [⟨.netflow, exporter, 0, ipfix.message announced⟩,
      ⟨.netflow, exporter, 0, v9.message unscoped⟩, ⟨.netflow, exporter, 0, ipfix.message data⟩]
    let found := (Packet.decodeAll packets ∅).1.map Packet.templateFlows
    let session := ipfix.session exporter 0
    let store := (session.sets announced ∅).2
    let zero : Reading :=
      ⟨session, ⟨.options 1, [⟨302, 1, none⟩, ⟨305, 2, none⟩]⟩, [[5], [0, 0]]⟩
    found.map (·.map (·.samplingRate)) = [[], [], [512, 1000, 1, 7]]
      ∧ found = Reading.flowsInTurn [] (Packet.readAll packets ∅)
      ∧ Reading.announcedRate? (Packet.readAll packets ∅).flatten ⟨exporter, 7, 5⟩ = some 512
      ∧ zero ∈ session.setReadings ⟨400, [5, 0, 0]⟩ store ∧ zero.Complete := by
  intro exporter ipfix v9 announced unscoped data packets found session store zero
  obtain ⟨flows, rates, sets⟩ := samplingRates_of_decodeAll packets
  have mem : zero ∈ session.setReadings ⟨400, [5, 0, 0]⟩ store := by decide +kernel
  have learned : (Packet.decodeAll packets ∅).2.rate? ⟨exporter, 7, 5⟩ = some 512 := by
    decide +kernel
  exact ⟨by decide +kernel, flows, (rates _).symm.trans learned, mem, (sets _ _ _).2 zero mem⟩

end FlowCollector
