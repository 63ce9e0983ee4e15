import FlowCollector.Bytes

/-!
# Network addresses

An address is either four bytes (`Ipv4`) or eight groups of two bytes (`Ipv6`). The two kinds stay apart in
`IpAddress`: an IPv4 address and the IPv6 address that maps it are not the same address, and everything keyed by an
exporter, the `Store` and the counts of `Stats` among it, keeps them apart as well.

`toBytes` and `ofBytes?` are the two directions between an address and its bytes in wire order.
-/

set_option autoImplicit false

namespace FlowCollector

/-- An IPv4 address, by its four bytes. -/
structure Ipv4 where
  a : UInt8
  b : UInt8
  c : UInt8
  d : UInt8
  deriving DecidableEq, Repr

namespace Ipv4

/-- The address of no host, 0.0.0.0. A record shows it where `IpAddress` has nothing better. -/
def unspecified : Ipv4 := ⟨0, 0, 0, 0⟩

/-- The bytes of an address, in wire order, as `ofBytes?` reads them. -/
def toBytes (address : Ipv4) : Bytes := [address.a, address.b, address.c, address.d]

/-- The address that exactly four bytes spell, and none for a run of any other length. The inverse of `toBytes`. -/
def ofBytes? : Bytes → Option Ipv4
  | [a, b, c, d] => some ⟨a, b, c, d⟩
  | _ => none

@[simp] theorem ofBytes?_toBytes (address : Ipv4) : ofBytes? address.toBytes = some address := rfl

theorem toBytes_of_ofBytes? {bytes : Bytes} {address : Ipv4} (h : ofBytes? bytes = some address) :
    address.toBytes = bytes := by
  unfold ofBytes? at h
  split at h
  · cases h; rfl
  · cases h

end Ipv4

/-- An IPv6 address, by its eight groups of two bytes. That there are eight is part of the value, so `Ipv6.text` and
`Ipv6.toBytes` need not ask. -/
structure Ipv6 where
  groups : List UInt16
  length_groups : groups.length = 8
  deriving DecidableEq, Repr

namespace Ipv6

def unspecified : Ipv6 := ⟨List.replicate 8 0, rfl⟩

/-- The address of exactly eight groups, and none for any other number of them. Both `Ipv6.ofBytes?` and the reader of
texts end here. -/
def ofGroups? (groups : List UInt16) : Option Ipv6 :=
  if h : groups.length = 8 then some ⟨groups, h⟩ else none

/-- The bytes of an address, in wire order, as `Ipv6.ofBytes?` reads them. -/
def toBytes (address : Ipv6) : Bytes := address.groups.flatMap fun group => Bytes.ofNat 2 group.toNat

/-- Bytes two by two, as groups. A byte without a partner is left out, which `Ipv6.ofBytes?` never sees, since it asks
for sixteen bytes. -/
def groupsOfBytes : Bytes → List UInt16
  | high :: low :: rest => .ofNat (Bytes.toNat [high, low]) :: groupsOfBytes rest
  | _ => []

/-- The address that exactly sixteen bytes spell: `groupsOfBytes` of them, if there are `Ipv6.ofGroups?` eight. -/
def ofBytes? (bytes : Bytes) : Option Ipv6 :=
  if bytes.length = 16 then ofGroups? (groupsOfBytes bytes) else none

end Ipv6

/-- The address of an exporter, or of an end of a flow. The two constructors never meet: no function of the library
turns an `Ipv4` into the `Ipv6` that maps it. -/
inductive IpAddress where
  | v4 (address : Ipv4)
  | v6 (address : Ipv6)
  deriving DecidableEq, Repr

namespace IpAddress

/-- 0.0.0.0, which a record shows where nothing is known. It is the blank value of every address of
`FlowRecord.blank`. -/
def unspecified : IpAddress := .v4 .unspecified

/-- True of 0.0.0.0 and of the IPv6 address of all zeros: `Ipv4.unspecified` and `Ipv6.unspecified`. -/
def isUnspecified (address : IpAddress) : Bool :=
  address == .v4 .unspecified || address == .v6 .unspecified

/-- True of the addresses of sixteen bytes, from which `FlowRecord` infers the IPv6 ether type. -/
def isV6 : IpAddress → Bool
  | .v4 _ => false
  | .v6 _ => true

def ofV4Bytes? (bytes : Bytes) : Option IpAddress := (Ipv4.ofBytes? bytes).map .v4

def ofV6Bytes? (bytes : Bytes) : Option IpAddress := (Ipv6.ofBytes? bytes).map .v6

end IpAddress

end FlowCollector
