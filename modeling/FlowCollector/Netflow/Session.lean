import FlowCollector.Decoded
import FlowCollector.Netflow.Announcement
import FlowCollector.Netflow.DataRecord
import FlowCollector.Template.Store

/-!
# The sets of a message, in turn

A `Session` is what holds for all of a message: its format, who sent it, in which domain and when. Each
set is decoded with the store that the sets before it left, so a template can be used by the set right
behind the one that announced it.

The session's exporter and domain are in every key it makes. It has no way to name a template or a
rate of another.
-/

set_option autoImplicit false

namespace FlowCollector.Netflow

/-- What holds for all of a message: the format, and what `Session.key` and `Session.samplerKey` make the keys of. -/
structure Session where
  version : Version
  exporter : IpAddress
  domain : UInt32
  timeReceived : UInt64
  deriving DecidableEq, Repr

namespace Session

/-- The key under which a template of this exporter and domain is stored. `announce` and `dataSet` name templates by
it, so they agree on whose templates are meant. -/
def key (session : Session) (id : UInt16) : TemplateKey :=
  ⟨session.exporter, session.domain, id⟩

/-- The key under which the rate of a sampler of this exporter and domain is stored. `record` sets the rate and
`samplingRate` asks for it. -/
def samplerKey (session : Session) (sampler : UInt64) : SamplerKey :=
  ⟨session.exporter, session.domain, sampler⟩

/-- Does what an `Announcement` says to the store. A `define` whose number is below `leastDataSetId` names no set that
holds data, so its template is not kept. A `withdraw` that names a template set of IPFIX withdraws every template of
the domain, and one that names a data set withdraws the template of that number. -/
def announce (session : Session) : Announcement → Store → Decoded × Store
  | .define id template, store =>
    if leastDataSetId ≤ id then
      (⟨[], [], 1⟩, store.upsert (session.key id) template)
    else (.nothing, store)
  | .withdraw id, store =>
    if id = Version.ipfix.templateSetId ∨ id = Version.ipfix.optionsTemplateSetId then
      (.nothing, store.removeDomain session.exporter session.domain)
    else if leastDataSetId ≤ id then (.nothing, store.remove (session.key id))
    else (.nothing, store)
  | .blank, store => (.nothing, store)

/-- Does by `announce` what the announcements of a set say, one after the other, and reports the error that ended them
behind theirs. -/
def announceAll (session : Session) (said : List Announcement × Option DecodeError)
    (store : Store) : Decoded × Store :=
  let (decoded, store) := Decoded.sequence session.announce said.1 store
  (decoded ++ .ofErrors said.2.toList, store)

/-- The rate a record was sampled with: its own if that is positive, else the one announced for its sampler under
`samplerKey`, else one. A record that names no sampler has sampler 0. -/
def samplingRate (session : Session) (state : FieldState) (store : Store) : UInt64 :=
  match state.samplingRate.filter (0 < ·) with
  | some rate => rate
  | none => (store.rate? (session.samplerKey (state.samplerId.getD 0))).getD 1

/-- Decodes the values of one record by `DataRecord.fill`. A record of an options template is no flow, but a positive
rate in it is kept under `samplerKey` for the records to come. A flow gets its `samplingRate` and the ether type that
its addresses imply. -/
def record (session : Session) (template : Template) (values : List Bytes) (store : Store) :
    Decoded × Store :=
  let blank := FieldState.start session.exporter session.timeReceived
  let (state, errors) := DataRecord.fill session.version template blank values
  if template.isOptions then
    match state.samplingRate.filter (0 < ·) with
    | some rate =>
      (.ofErrors errors, store.setRate (session.samplerKey (state.samplerId.getD 0)) rate)
    | none => (.ofErrors errors, store)
  else
    let flow := { state.record with samplingRate := session.samplingRate state store }
    (⟨[flow.inferEtherType], errors, 0⟩, store)

/-- Decodes by `record` the records that `DataRecord.split` cuts out of a body. A template without a single byte
(`Template.leastRecordLength`) could be read for ever and is refused. -/
def dataRecords (session : Session) (template : Template) (body : Bytes) (store : Store) :
    Decoded × Store :=
  if template.leastRecordLength = 0 then
    (.ofError (.malformedLength .dataSet 0 body.length), store)
  else
    let (records, ending) := DataRecord.split template body
    let (decoded, store) := Decoded.sequence (session.record template) records store
    (decoded ++ .ofErrors ending.toList, store)

/-- Decodes a data set by `dataRecords` with the template that the store has under the set's number. Without one the
set is an `unknownTemplate` error and gives nothing. -/
def dataSet (session : Session) (id : UInt16) (body : Bytes) (store : Store) : Decoded × Store :=
  match store.lookup? (session.key id) with
  | none => (.ofError (.unknownTemplate session.domain id), store)
  | some template => session.dataRecords template body store

/-- Decodes a set by its number: the two numbers of the version's template sets go to `announceAll`, those from
`leastDataSetId` on to `dataSet`, and the others are passed over. -/
def set (session : Session) (raw : RawSet) (store : Store) : Decoded × Store :=
  if raw.id = session.version.templateSetId then
    session.announceAll (Announcement.ofTemplateSet session.version raw.body) store
  else if raw.id = session.version.optionsTemplateSetId then
    session.announceAll (Announcement.ofOptionsTemplateSet session.version raw.body) store
  else if leastDataSetId ≤ raw.id then session.dataSet raw.id raw.body store
  else (.nothing, store)

/-- Decodes the body of a message: `RawSet.split` cuts it, and `set` decodes each set with the store that the one
before left. What ends the row of sets is reported behind their own errors. -/
def sets (session : Session) (body : Bytes) (store : Store) : Decoded × Store :=
  let (raw, ending) := RawSet.split body
  let (decoded, store) := Decoded.sequence session.set raw store
  (decoded ++ .ofErrors ending.toList, store)

end Session

end FlowCollector.Netflow
