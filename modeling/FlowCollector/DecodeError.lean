import FlowCollector.Bytes

/-!
# What can be wrong with a datagram

A decoder never gives up on a datagram as a whole: it drops the smallest part that cannot be read and says why. The
reasons below are causes, not texts. The wording stands in `DecodeError.message` and nowhere else, and the name under
which an error is counted in `Reason.label`.

`Place` names the part of a datagram that was being read. It is not a position: two errors in the same kind of part
are equal whatever their offset, so an error does not depend on what stood before it.
-/

set_option autoImplicit false

namespace FlowCollector

/-- The part of a datagram that was being read when an error arose, handed to `Reader.take` by whoever reads the part. -/
inductive Place where
  | header
  | v5Header
  | v5Record
  | v9Header
  | ipfixHeader
  | ipfixMessage
  | set
  | setHeader
  | template
  | templateField
  | optionsTemplate
  | optionsTemplateScope
  | dataSet
  | dataRecord
  | variableLength
  | sflowHeader
  | agentAddress
  | sample
  | sampleRecord
  | flowSample
  | flowRecord
  | rawHeader
  | sampledIpv4
  | sampledIpv6
  | extendedRouter
  | extendedGateway
  | asPath
  deriving DecidableEq, Repr

/-- The words that `DecodeError.message` uses for a place. -/
def Place.text : Place → String
  | .header => "header"
  | .v5Header => "v5 header"
  | .v5Record => "v5 record"
  | .v9Header => "v9 header"
  | .ipfixHeader => "ipfix header"
  | .ipfixMessage => "ipfix message"
  | .set => "set"
  | .setHeader => "set header"
  | .template => "template"
  | .templateField => "template field"
  | .optionsTemplate => "options template"
  | .optionsTemplateScope => "options template scope"
  | .dataSet => "data set"
  | .dataRecord => "data record"
  | .variableLength => "variable length"
  | .sflowHeader => "sflow header"
  | .agentAddress => "agent address"
  | .sample => "sample"
  | .sampleRecord => "record"
  | .flowSample => "flow sample"
  | .flowRecord => "flow record"
  | .rawHeader => "raw header"
  | .sampledIpv4 => "sampled ipv4"
  | .sampledIpv6 => "sampled ipv6"
  | .extendedRouter => "extended router"
  | .extendedGateway => "extended gateway"
  | .asPath => "as path"

/-- Why a part of a datagram was dropped. -/
inductive DecodeError where
  /-- A length or count that cannot be right where it stands: of a set, of a template, or of a part of a sample. -/
  | malformedLength (place : Place) (declared available : Nat)
  /-- A data set whose template has not been announced by this exporter in this domain, so that `Store` has none for
  it. -/
  | unknownTemplate (domain : UInt32) (id : UInt16)
  /-- The bytes end before the part does, as `Reader.take` finds. -/
  | truncated (place : Place) (needed available : Nat)
  /-- A known `Element` in a width it cannot have. -/
  | unsupportedField (fieldType : UInt16) (length : Nat)
  /-- A datagram of a version that is not decoded. -/
  | unsupportedVersion (version : UInt32)
  deriving DecidableEq, Repr

/-- The five kinds of error that are counted apart, one for each constructor of `DecodeError`. -/
inductive Reason where
  | malformedLength
  | unknownTemplate
  | truncated
  | unsupportedField
  | unsupportedVersion
  deriving DecidableEq, Repr

/-- The name under which a kind of error is counted in `Stats`, and told in a report. -/
def Reason.label : Reason → String
  | .malformedLength => "malformed_length"
  | .unknownTemplate => "unknown_template"
  | .truncated => "truncated"
  | .unsupportedField => "unsupported_field"
  | .unsupportedVersion => "unsupported_version"

def Reason.all : List Reason :=
  [.malformedLength, .unknownTemplate, .truncated, .unsupportedField, .unsupportedVersion]

theorem Reason.mem_all (reason : Reason) : reason ∈ Reason.all := by
  cases reason <;> decide

namespace DecodeError

/-- The kind under which an error is counted. -/
def reason : DecodeError → Reason
  | malformedLength .. => .malformedLength
  | unknownTemplate .. => .unknownTemplate
  | truncated .. => .truncated
  | unsupportedField .. => .unsupportedField
  | unsupportedVersion .. => .unsupportedVersion

def message : DecodeError → String
  | malformedLength place declared available =>
    s!"malformed length in {place.text}: declared {declared}, available {available}"
  | unknownTemplate domain id => s!"unknown template {id} in domain {domain}"
  | truncated place needed available =>
    s!"truncated {place.text}: need {needed} bytes, have {available}"
  | unsupportedField fieldType length =>
    s!"unsupported field {fieldType} with length {length}"
  | unsupportedVersion version => s!"unsupported version {version}"

/-- Inside a part whose own length was declared, bytes that end early mean that the declared length was wrong: the
datagram itself is not cut off there. `DecodeError.truncated` becomes `DecodeError.malformedLength` with the same
numbers. -/
def asMalformed (place : Place) : DecodeError → DecodeError
  | truncated _ needed available => .malformedLength place needed available
  | error => error

end DecodeError

end FlowCollector
