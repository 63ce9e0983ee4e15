import FlowCollector.Netflow.Session
import FlowCollector.Netflow.Version5

/-!
# NetFlow and IPFIX datagrams

The first word tells the format. Version 9 and IPFIX have a header that names the domain, and sets behind
it. IPFIX also says how long the message is: bytes behind that end are not part of it, and when the
end lies beyond the datagram the sets that are there are still decoded.
-/

set_option autoImplicit false

namespace FlowCollector.Netflow

/-- What `Body.ofPayload` finds in a message: its sets as bytes, the domain it is about, and the error of a message of
IPFIX that is cut off. -/
structure Body where
  domain : UInt32
  sets : Bytes
  cutOff : Option DecodeError := none
  deriving DecidableEq, Repr

namespace Body

def v9HeaderLength : Nat := 20

def ipfixHeaderLength : Nat := 16

/-- The fields of a header of version 9 that matter. Counts, times and sequence numbers are passed over, and the
domain is left. -/
def v9HeaderFields : Reader UInt32 := do
  Reader.skip .v9Header 16
  Reader.u32 .v9Header

/-- Takes the header off a message of version 9. It is taken as a whole before `v9HeaderFields` reads it, so a short
one misses all of `v9HeaderLength`. -/
def ofV9 : Reader UInt32 := do
  let header ← Reader.take .v9Header v9HeaderLength
  match v9HeaderFields.run header with
  | .ok (domain, _) => return domain
  | .error error => Reader.fail error

/-- The fields of a header of IPFIX that matter: the length of the whole message as the header declares it, and the
domain. -/
def ipfixHeaderFields : Reader (Nat × UInt32) := do
  Reader.skip .ipfixHeader 2
  let length ← Reader.u16 .ipfixHeader
  Reader.skip .ipfixHeader 8
  let domain ← Reader.u32 .ipfixHeader
  return (length.toNat, domain)

/-- Takes the header off a message of IPFIX, as a whole, as `ofV9` does. -/
def ofIpfix : Reader (Nat × UInt32) := do
  let header ← Reader.take .ipfixHeader ipfixHeaderLength
  match ipfixHeaderFields.run header with
  | .ok (fields, _) => return fields
  | .error error => Reader.fail error

/-- The body of a datagram. A version 9 message goes to the end of the payload. An IPFIX message goes to its declared
length; one that declares more than there is has a `cutOff` error, and one that declares less than a header has no
body. -/
def ofPayload (version : Version) (payload : Bytes) : Except DecodeError Body :=
  match version with
  | .v9 => do
    let (domain, sets) ← ofV9.run payload
    return { domain, sets }
  | .ipfix => do
    let ((length, domain), rest) ← ofIpfix.run payload
    if length < ipfixHeaderLength then
      throw (.malformedLength .ipfixMessage length payload.length)
    else if payload.length < length then
      return { domain, sets := rest, cutOff := some (.truncated .ipfixMessage length payload.length) }
    else return { domain, sets := rest.take (length - ipfixHeaderLength) }

end Body

/-- Decodes a message of sets: `Body.ofPayload` for the header, then `Session.sets` for what is behind it. The error
of a message that is cut off stands before those of its sets. -/
def decodeMessage (version : Version) (exporter : IpAddress) (timeReceived : UInt64)
    (payload : Bytes) (store : Store) : Decoded × Store :=
  match Body.ofPayload version payload with
  | .error error => (.ofError error, store)
  | .ok body =>
    let session : Session := ⟨version, exporter, body.domain, timeReceived⟩
    let (decoded, store) := session.sets body.sets store
    (.ofErrors body.cutOff.toList ++ decoded, store)

/-- Decodes a datagram of any version, which its first two bytes tell. Version 5 leaves the store alone; 9 and 10 go
through `decodeMessage`. -/
def decode (exporter : IpAddress) (timeReceived : UInt64) (payload : Bytes) (store : Store) :
    Decoded × Store :=
  match (Reader.u16 .header).run payload with
  | .error error => (.ofError error, store)
  | .ok (version, _) =>
    if version = 5 then (Version5.decode exporter timeReceived payload, store)
    else if version = 9 then decodeMessage .v9 exporter timeReceived payload store
    else if version = 10 then decodeMessage .ipfix exporter timeReceived payload store
    else (.ofError (.unsupportedVersion version.toUInt32), store)

end FlowCollector.Netflow
