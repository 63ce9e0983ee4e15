import FlowCollector.Decoded
import FlowCollector.Sflow.SampleRecord

/-!
# Flow samples

A flow sample says how one packet came to be sampled and, in a row of records, what the packet was. It
gives one flow record, unless none of its records is about the packet. The two forms of a sample differ
in the widths of their first words only.

The row of records has a count and each record a length. A record whose inside is wrong is left out
with an error. A row that cannot be cut takes the sample with it, and the errors found before that are
kept.
-/

set_option autoImplicit false

namespace FlowCollector.Sflow

/-- The two forms of a flow sample, which only `SampleHeader.read` tells apart. -/
inductive Form where
  | compact
  | expanded
  deriving DecidableEq, Repr

/-- A record of a sample, cut out by `Block.read` but not read. -/
structure Block where
  format : Format
  body : Bytes
  deriving DecidableEq, Repr

/-- Takes a record from the front of a row, by the length it declares. -/
def Block.read : Reader Block := do
  let format ← Reader.u32 .flowRecord
  let length ← Reader.u32 .flowRecord
  return ⟨.ofWord format, ← Reader.take .flowRecord length.toNat⟩

/-- What stands in front of the records of a sample, as far as a flow record has room for it, and how many records
there are. -/
structure SampleHeader where
  samplingRate : UInt32
  inputInterface : UInt32
  outputInterface : UInt32
  recordCount : UInt32
  deriving DecidableEq, Repr

namespace SampleHeader

/-- The bits of a compact interface word that hold the interface. The upper two hold its kind. -/
def interfaceMask : UInt32 := 0x3fffffff

/-- Reads what stands in front of the records, in either form. The interfaces of the compact form are taken by
`interfaceMask`. -/
def read (form : Form) : Reader SampleHeader := do
  let _sequence ← Reader.u32 .flowSample
  Reader.skip .flowSample (match form with | .compact => 4 | .expanded => 8)
  let samplingRate ← Reader.u32 .flowSample
  let _pool ← Reader.u32 .flowSample
  let _drops ← Reader.u32 .flowSample
  match form with
  | .compact =>
    let input ← Reader.u32 .flowSample
    let output ← Reader.u32 .flowSample
    let recordCount ← Reader.u32 .flowSample
    return ⟨samplingRate, input &&& interfaceMask, output &&& interfaceMask, recordCount⟩
  | .expanded =>
    let _inputKind ← Reader.u32 .flowSample
    let input ← Reader.u32 .flowSample
    let _outputKind ← Reader.u32 .flowSample
    let output ← Reader.u32 .flowSample
    let recordCount ← Reader.u32 .flowSample
    return ⟨samplingRate, input, output, recordCount⟩

/-- The record before any of the sample's records: one packet, seen at this rate. `useBlock` goes on from it. -/
def blank (header : SampleHeader) (exporter : IpAddress) (timeReceived : UInt64) : FlowRecord :=
  { FlowRecord.blank exporter timeReceived with
    samplingRate := if header.samplingRate = 0 then 1 else header.samplingRate.toUInt64
    inputInterface := header.inputInterface
    outputInterface := header.outputInterface
    packets := 1 }

end SampleHeader

namespace FlowSample

/-- Uses one record of a sample by `SampleRecord.read` and `SampleRecord.apply`: the flow record it leaves, and its
error if it could not be read. -/
def useBlock (record : FlowRecord) (block : Block) : FlowRecord × Option DecodeError :=
  match (SampleRecord.read block.format).run block.body with
  | .ok (said, _) => (said.apply record, none)
  | .error error => (record, some (error.asMalformed .flowRecord))

/-- Uses the records of a sample one after another by `useBlock`. One that could not be read leaves the flow record to
the next. -/
def useBlocks : FlowRecord → List Block → FlowRecord × List DecodeError
  | record, [] => (record, [])
  | record, block :: others =>
    let (used, error) := useBlock record block
    let (final, errors) := useBlocks used others
    (final, error.toList ++ errors)

/-- The result of decoding a sample: the errors of records that were left out, and then either the failure of the
whole sample or its flow record, if `describesPacket` was true of the format of one of its records. -/
structure Result where
  errors : List DecodeError
  outcome : Except DecodeError (Option FlowRecord)

/-- Decodes the body of a sample: its header, its records one by one as `Block.read` cuts them out, and `useBlocks` on
those. A row that cannot be cut is the failure of the whole. -/
def decode (form : Form) (exporter : IpAddress) (timeReceived : UInt64) (body : Bytes) : Result :=
  match (SampleHeader.read form).run body with
  | .error error => ⟨[], .error error⟩
  | .ok (header, rest) =>
    let (blocks, ending) := Reader.upTo header.recordCount.toNat Block.read rest
    let (record, errors) := useBlocks (header.blank exporter timeReceived) blocks
    match ending with
    | some error => ⟨errors, .error error⟩
    | none =>
      if blocks.any fun block => SampleRecord.describesPacket block.format then
        ⟨errors, .ok (some record.inferEtherType)⟩
      else ⟨errors, .ok none⟩

/-- What a sample's result adds to that of its datagram. All of its failures are told as wrong lengths, by
`asMalformed`. -/
def Result.toDecoded (result : Result) : Decoded :=
  match result.outcome with
  | .ok record => ⟨record.toList, result.errors, 0⟩
  | .error error => .ofErrors (result.errors ++ [error.asMalformed .flowSample])

end FlowSample

end FlowCollector.Sflow
