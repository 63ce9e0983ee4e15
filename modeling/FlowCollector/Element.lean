import FlowCollector.DecodeError
import FlowCollector.FlowRecord

/-!
# Information elements

A template says what each field of a data record means by the number of an information element, and NetFlow 9 and
IPFIX number the elements alike. `Element` lists those that say something about a flow record. The others are not
errors: their bytes are passed over.

A number may be sent in any width from one to eight bytes (`readUnsigned?`) and is cut down to the member it fills. An
address has one width only. A field in a width its element cannot have is an error, and such a field changes nothing.
-/

set_option autoImplicit false

namespace FlowCollector

/-- The value of one to eight bytes, most significant byte first, and none for any other length. -/
def readUnsigned? (value : Bytes) : Option UInt64 :=
  if 1 ≤ value.length ∧ value.length ≤ 8 then some (.ofNat (Bytes.toNat value)) else none

/-- What a field can say about a flow. `Element.ofNumber?` finds it by its number. -/
inductive Element where
  | octets
  | packets
  | protocol
  | tcpFlags
  | sourcePort
  | destinationPort
  | sourceMask
  | destinationMask
  | inputInterface
  | outputInterface
  | sourceAs
  | destinationAs
  | forwardingStatus
  | etherType
  | sourceIpv4
  | destinationIpv4
  | sourceIpv6
  | destinationIpv6
  /-- The next hop as the router forwards, which always fills `FlowRecord.nextHop`. -/
  | nextHopIpv4
  | nextHopIpv6
  /-- The next hop as the routing protocol knows it, good only where the router gave none (`FieldState.offerNextHop`). -/
  | bgpNextHopIpv4
  | bgpNextHopIpv6
  /-- The sampling rate of the record itself, kept in `FieldState.samplingRate`. -/
  | samplingRate
  /-- The sampler whose announced rate holds for the record, kept in `FieldState.samplerId`. -/
  | samplerId
  deriving DecidableEq, Repr

namespace Element

/-- The element of a number, if it is one that a flow record has room for. -/
def ofNumber? (number : UInt16) : Option Element :=
  match number.toNat with
  | 1 | 85 => some octets
  | 2 | 86 => some packets
  | 4 => some protocol
  | 6 => some tcpFlags
  | 7 => some sourcePort
  | 8 => some sourceIpv4
  | 9 | 29 => some sourceMask
  | 10 => some inputInterface
  | 11 => some destinationPort
  | 12 => some destinationIpv4
  | 13 | 30 => some destinationMask
  | 14 => some outputInterface
  | 15 => some nextHopIpv4
  | 16 => some sourceAs
  | 17 => some destinationAs
  | 18 => some bgpNextHopIpv4
  | 27 => some sourceIpv6
  | 28 => some destinationIpv6
  | 34 | 50 | 305 => some samplingRate
  | 48 | 302 => some samplerId
  | 62 => some nextHopIpv6
  | 63 => some bgpNextHopIpv6
  | 89 => some forwardingStatus
  | 256 => some etherType
  | _ => none

end Element

/-- A record being filled, with what its fields said about sampling, from which `Session` finds the rate in the end. -/
structure FieldState where
  record : FlowRecord
  samplingRate : Option UInt64 := none
  samplerId : Option UInt64 := none
  deriving DecidableEq, Repr

namespace FieldState

/-- Before any field: the blank record of an exporter. -/
def start (exporter : IpAddress) (timeReceived : UInt64) : FieldState where
  record := .blank exporter timeReceived

/-- A next hop of the routing protocol stands back behind one that is already known, whichever comes first. -/
def offerNextHop (state : FieldState) (address : IpAddress) : FieldState :=
  match state.record.nextHop with
  | some _ => state
  | none => { state with record := { state.record with nextHop := some address } }

/-- Fills in what an element says. Nothing if the value's width is not one the element can have, which `applyField`
makes an error of. -/
def fill? (state : FieldState) (element : Element) (value : Bytes) : Option FieldState :=
  let record := state.record
  match element with
  | .octets =>
    (readUnsigned? value).map fun n => { state with record := { record with bytes := n } }
  | .packets =>
    (readUnsigned? value).map fun n => { state with record := { record with packets := n } }
  | .protocol =>
    (readUnsigned? value).map fun n =>
      { state with record := { record with protocol := n.toUInt8 } }
  | .tcpFlags =>
    (readUnsigned? value).map fun n =>
      { state with record := { record with tcpFlags := n.toUInt8 } }
  | .sourcePort =>
    (readUnsigned? value).map fun n =>
      { state with record := { record with sourcePort := n.toUInt16 } }
  | .destinationPort =>
    (readUnsigned? value).map fun n =>
      { state with record := { record with destinationPort := n.toUInt16 } }
  | .sourceMask =>
    (readUnsigned? value).map fun n =>
      { state with record := { record with sourceMask := n.toUInt8 } }
  | .destinationMask =>
    (readUnsigned? value).map fun n =>
      { state with record := { record with destinationMask := n.toUInt8 } }
  | .inputInterface =>
    (readUnsigned? value).map fun n =>
      { state with record := { record with inputInterface := n.toUInt32 } }
  | .outputInterface =>
    (readUnsigned? value).map fun n =>
      { state with record := { record with outputInterface := n.toUInt32 } }
  | .sourceAs =>
    (readUnsigned? value).map fun n =>
      { state with record := { record with sourceAs := n.toUInt32 } }
  | .destinationAs =>
    (readUnsigned? value).map fun n =>
      { state with record := { record with destinationAs := n.toUInt32 } }
  | .forwardingStatus =>
    (readUnsigned? value).map fun n =>
      { state with record := { record with forwardingStatus := n.toUInt32 } }
  | .etherType =>
    (readUnsigned? value).map fun n =>
      { state with record := { record with etherType := n.toUInt16 } }
  | .sourceIpv4 =>
    (IpAddress.ofV4Bytes? value).map fun a =>
      { state with record := { record with sourceAddress := a } }
  | .destinationIpv4 =>
    (IpAddress.ofV4Bytes? value).map fun a =>
      { state with record := { record with destinationAddress := a } }
  | .sourceIpv6 =>
    (IpAddress.ofV6Bytes? value).map fun a =>
      { state with record := { record with sourceAddress := a } }
  | .destinationIpv6 =>
    (IpAddress.ofV6Bytes? value).map fun a =>
      { state with record := { record with destinationAddress := a } }
  | .nextHopIpv4 =>
    (IpAddress.ofV4Bytes? value).map fun a =>
      { state with record := { record with nextHop := some a } }
  | .nextHopIpv6 =>
    (IpAddress.ofV6Bytes? value).map fun a =>
      { state with record := { record with nextHop := some a } }
  | .bgpNextHopIpv4 => (IpAddress.ofV4Bytes? value).map state.offerNextHop
  | .bgpNextHopIpv6 => (IpAddress.ofV6Bytes? value).map state.offerNextHop
  | .samplingRate => (readUnsigned? value).map fun n => { state with samplingRate := some n }
  | .samplerId => (readUnsigned? value).map fun n => { state with samplerId := some n }

/-- Applies one field. A number that names no element is passed over, and one that `fill?` refuses is
`DecodeError.unsupportedField`. -/
def applyField (state : FieldState) (fieldType : UInt16) (value : Bytes) :
    Except DecodeError FieldState :=
  match Element.ofNumber? fieldType with
  | none => .ok state
  | some element =>
    match state.fill? element value with
    | some filled => .ok filled
    | none => .error (.unsupportedField fieldType value.length)

/-- Applies fields one after another. A field that `applyField` refuses is left out, and its error kept, so that the
fields behind it still count. -/
def applyFields (state : FieldState) : List (UInt16 × Bytes) → FieldState × List DecodeError
  | [] => (state, [])
  | (fieldType, value) :: others =>
    match state.applyField fieldType value with
    | .ok filled => filled.applyFields others
    | .error error =>
      let (final, errors) := state.applyFields others
      (final, error :: errors)

end FieldState

end FlowCollector
