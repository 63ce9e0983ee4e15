import FlowCollector.Netflow.Message
import FlowCollector.Sflow.Datagram

/-!
# Protocols

An input is set up for one of two protocols, and the choice is made once and not per datagram. NetFlow
means its versions 5 and 9 and IPFIX, which tell themselves apart.
-/

set_option autoImplicit false

namespace FlowCollector

/-- What an input decodes, by `Protocol.decode`. -/
inductive Protocol where
  | netflow
  | sflow
  deriving DecidableEq, Repr

namespace Protocol

/-- The name of a protocol in settings, reports and counts. `ofName?` reads it. -/
def name : Protocol → String
  | .netflow => "netflow"
  | .sflow => "sflow"

/-- The protocol of a name, which has to be just as `name` writes it. -/
def ofName? (name : String) : Option Protocol :=
  if name = "netflow" then some .netflow
  else if name = "sflow" then some .sflow
  else none

/-- Every protocol, each once. What is counted by protocol is summed over these. -/
def all : List Protocol := [.netflow, .sflow]

/-- Decodes a datagram by `Netflow.decode` or `Sflow.decode`. sFlow remembers nothing, so the store is as it was. -/
def decode (protocol : Protocol) (exporter : IpAddress) (timeReceived : UInt64) (payload : Bytes)
    (store : Store) : Decoded × Store :=
  match protocol with
  | .netflow => Netflow.decode exporter timeReceived payload store
  | .sflow => (Sflow.decode exporter timeReceived payload, store)

end Protocol

end FlowCollector
