import FlowCollector.Address.Text

/-!
# Socket addresses

Where a collector listens: an address and a port, and for IPv6 a scope as well. Two socket addresses that differ in
their scope alone are not equal, and a scope of zero is the same as none. `SocketAddress.ofText?` reads the text that
`SocketAddress.text` writes, and a few that it does not: zeros in front of a port, and a scope of zero.
-/

set_option autoImplicit false

namespace FlowCollector

/-- An address with a port. An IPv6 address also has its scope, which `text` shows only where it is not zero. -/
inductive SocketAddress where
  | v4 (address : Ipv4) (port : UInt16)
  | v6 (address : Ipv6) (scope : UInt32) (port : UInt16)
  deriving DecidableEq, Repr

namespace SocketAddress

/-- The port. Port 0 asks the system to choose one, and what it chose is in `Collector.addresses`. -/
def port : SocketAddress → UInt16
  | .v4 _ port => port
  | .v6 _ _ port => port

/-- The address without its port. For a datagram's sender it is the exporter, by which templates are kept in the
`Store`. -/
def ip : SocketAddress → IpAddress
  | .v4 address _ => .v4 address
  | .v6 address _ _ => .v6 address

/-- The text of a socket address: brackets around IPv6, and the scope only where it is not zero. -/
def text : SocketAddress → String
  | .v4 address port => s!"{String.ofList address.text}:{port}"
  | .v6 address scope port =>
    let zone := if scope = 0 then "" else s!"%{scope}"
    s!"[{String.ofList address.text}{zone}]:{port}"

/-- A port: decimal digits of `Numeral.read?`, zeros in front allowed. -/
def portOfText? (text : List Char) : Option UInt16 :=
  ((Numeral.read? 10 text).filter (· < UInt16.size)).map .ofNat

/-- What stands between the brackets: an address as `Ipv6.ofText?` reads it, and behind a percent sign a decimal
scope. -/
def scopedOfText? (text : List Char) : Option (Ipv6 × UInt32) := do
  match Text.cutAt '%' text with
  | none => return (← Ipv6.ofText? text, 0)
  | some (address, scope) =>
    let address ← Ipv6.ofText? address
    let scope ← (Numeral.read? 10 scope).filter (· < UInt32.size)
    return (address, .ofNat scope)

/-- The socket address that a text spells. Where it is none, the settings complain with `syntaxComplaint`. -/
def ofText? (text : String) : Option SocketAddress := do
  match text.toList with
  | '[' :: bracketed =>
    let (inside, behind) ← Text.cutAt ']' bracketed
    let (address, scope) ← scopedOfText? inside
    match behind with
    | ':' :: port => return .v6 address scope (← portOfText? port)
    | _ => none
  | chars =>
    let (address, port) ← Text.cutAt ':' chars
    return .v4 (← Ipv4.ofText? address) (← portOfText? port)

/-- The one complaint about a text that is none of `ofText?`, whatever is wrong with it. -/
def syntaxComplaint : String := "invalid socket address syntax"

end SocketAddress

end FlowCollector
