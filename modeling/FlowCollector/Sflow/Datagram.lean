import FlowCollector.Sflow.FlowSample

/-!
# sFlow datagrams

A header and a row of samples. Nothing is announced and nothing remembered. Flow samples become flow
records; counters, samples of other formats and those of vendors are passed over.

A sample whose length reaches beyond the datagram is not the end of the row, if its inside shows where
it really ends: its lengths are followed to the end of its records, and only that sample is lost.
-/

set_option autoImplicit false

namespace FlowCollector.Sflow

def supportedVersion : UInt32 := 5

/-- Reads the header of a datagram: the number of its samples, which `Sflow.decode` reads no more of than there are. A
version other than `supportedVersion` is refused first. -/
def readHeader : Reader UInt32 := do
  let version ← Reader.u32 .sflowHeader
  if version ≠ supportedVersion then Reader.fail (.unsupportedVersion version)
  else
    let _agent ← readAddress .agentAddress
    let _subAgent ← Reader.u32 .sflowHeader
    let _sequence ← Reader.u32 .sflowHeader
    let _uptime ← Reader.u32 .sflowHeader
    Reader.u32 .sflowHeader

namespace Sample

/-- How many bytes stand in front of a sample's record count, for the formats whose records can be followed by
`walk`. -/
def fixedLength? (format : Format) : Option Nat :=
  if format.enterprise ≠ 0 then none
  else
    match format.number with
    | 1 => some 28
    | 2 => some 8
    | 3 => some 40
    | 4 => some 12
    | _ => none

/-- Passes over one record by its length, whatever its format. -/
def skipRecord : Reader Unit := do
  let _format ← Reader.u32 .sampleRecord
  let length ← Reader.u32 .sampleRecord
  Reader.skip .sampleRecord length.toNat

/-- Passes over a sample by the lengths of its records, each by `skipRecord`. -/
def walk (fixed : Nat) : Reader Unit := do
  Reader.skip .sample fixed
  let count ← Reader.u32 .sample
  let _ ← Reader.times count.toNat skipRecord
  return ()

/-- The length that a sample's records give it by `walk`, whatever length it declares. -/
def structuralLength? (format : Format) (bytes : Bytes) : Option Nat := do
  let fixed ← fixedLength? format
  match (walk fixed).run bytes with
  | .ok (_, rest) => some (bytes.length - rest.length)
  | .error _ => none

end Sample

/-- A sample, cut out of the row but not read: with the body it declares, or without one. -/
inductive RawSample where
  | framed (format : Format) (body : Bytes)
  /-- A sample whose declared length was too long, and which `structuralLength?` showed the end of. -/
  | overlong (declared available : Nat)
  deriving DecidableEq, Repr

namespace RawSample

/-- Takes a sample from the front of the row. If it declares more than there is, and `structuralLength?` does not show
its end either, it is cut off and ends the row. -/
def read : Reader RawSample := do
  let format := Format.ofWord (← Reader.u32 .sample)
  let length := (← Reader.u32 .sample).toNat
  fun bytes =>
    if length ≤ bytes.length then .ok (.framed format (bytes.take length), bytes.drop length)
    else
      match Sample.structuralLength? format bytes with
      | some actual => .ok (.overlong length bytes.length, bytes.drop actual)
      | none => .error (.truncated .sample length bytes.length)

/-- The form of a flow sample, by its format. Samples of other formats have none and are passed over. -/
def form? (format : Format) : Option Form :=
  if format.enterprise ≠ 0 then none
  else if format.number = 1 then some .compact
  else if format.number = 3 then some .expanded
  else none

/-- What a sample adds to the result of its datagram: what `FlowSample.decode` has of a flow sample, one error for one
that is `overlong`, and nothing otherwise. -/
def decode (exporter : IpAddress) (timeReceived : UInt64) : RawSample → Decoded
  | .framed format body =>
    match form? format with
    | some form => (FlowSample.decode form exporter timeReceived body).toDecoded
    | none => .nothing
  | .overlong declared available => .ofError (.malformedLength .sample declared available)

end RawSample

/-- Decodes a datagram: the header by `readHeader`, then at most so many samples as it declares, each by
`RawSample.decode`. What ends the row is the last error. -/
def decode (exporter : IpAddress) (timeReceived : UInt64) (payload : Bytes) : Decoded :=
  match readHeader.run payload with
  | .error error => .ofError error
  | .ok (count, rest) =>
    let (samples, ending) := Reader.upTo count.toNat RawSample.read rest
    let decoded := samples.map (RawSample.decode exporter timeReceived)
    decoded.foldr (· ++ ·) (.ofErrors ending.toList)

end FlowCollector.Sflow
