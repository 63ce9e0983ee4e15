import FlowCollector.Proofs.Reader.Spelling
import FlowCollector.Address

/-!
# Addresses on the wire

An address is written in four bytes or in sixteen, and any four or sixteen bytes are those of an address. What the two
laws of each kind say together is that nothing is lost either way.
-/

set_option autoImplicit false

namespace FlowCollector

namespace Ipv4

theorem exists_ofBytes? {bytes : Bytes} (width : bytes.length = 4) : ∃ address, ofBytes? bytes = some address := by
  rcases bytes with _ | ⟨a, _ | ⟨b, _ | ⟨c, _ | ⟨d, _ | ⟨e, rest⟩⟩⟩⟩⟩
  case cons.cons.cons.cons.nil => exact ⟨⟨a, b, c, d⟩, rfl⟩
  all_goals simp at width

end Ipv4

namespace Ipv6

theorem groupsOfBytes_ofNat (group : UInt16) (rest : Bytes) :
    groupsOfBytes (Bytes.ofNat 2 group.toNat ++ rest) = group :: groupsOfBytes rest := by
  have pair : Bytes.ofNat 2 group.toNat
      = [UInt8.ofNat (group.toNat / 256 % 256), UInt8.ofNat (group.toNat % 256)] := rfl
  have value := Bytes.ofNat_toNat_ofNat group
  rw [pair] at value ⊢
  rw [List.cons_append, List.cons_append, List.nil_append, groupsOfBytes, value]

theorem length_groupsOfBytes (bytes : Bytes) : (groupsOfBytes bytes).length = bytes.length / 2 := by
  fun_induction groupsOfBytes bytes with
  | case1 high low rest ih =>
    rw [List.length_cons, ih, List.length_cons, List.length_cons]
    omega
  | case2 bytes fewer =>
    rcases bytes with _ | ⟨high, _ | ⟨low, rest⟩⟩
    · rfl
    · exact (Nat.div_eq_of_lt (by decide : 1 < 2)).symm
    · exact absurd rfl (fewer high low rest)

theorem length_toBytes (address : Ipv6) : address.toBytes.length = 16 := by
  simp [toBytes, List.length_flatMap, List.map_const', address.length_groups]

theorem groupsOfBytes_flatMap (groups : List UInt16) :
    groupsOfBytes (groups.flatMap fun group => Bytes.ofNat 2 group.toNat) = groups := by
  induction groups with
  | nil => rfl
  | cons group others ih => rw [List.flatMap_cons, groupsOfBytes_ofNat, ih]

@[simp] theorem ofBytes?_toBytes (address : Ipv6) : ofBytes? address.toBytes = some address := by
  unfold ofBytes? ofGroups?
  rw [if_pos address.length_toBytes, toBytes, groupsOfBytes_flatMap, dif_pos address.length_groups]

theorem exists_ofBytes? {bytes : Bytes} (width : bytes.length = 16) : ∃ address, ofBytes? bytes = some address := by
  have eight : (groupsOfBytes bytes).length = 8 := by rw [length_groupsOfBytes, width]
  unfold ofBytes? ofGroups?
  rw [if_pos width, dif_pos eight]
  exact ⟨_, rfl⟩

/-- Two bytes are those of the group that they spell, so an even number of them is that of their groups. With this
`Ipv6.ofBytes?` loses nothing. -/
theorem flatMap_groupsOfBytes (bytes : Bytes) (even : bytes.length % 2 = 0) :
    ((groupsOfBytes bytes).flatMap fun group => Bytes.ofNat 2 group.toNat) = bytes := by
  fun_induction groupsOfBytes bytes with
  | case1 high low rest ih =>
    have below := Bytes.toNat_lt [high, low]
    rw [show [high, low].length = 2 from rfl] at below
    have fewer : rest.length % 2 = 0 := by
      simp only [List.length_cons] at even
      omega
    have pair : Bytes.ofNat 2 (UInt16.ofNat (Bytes.toNat [high, low])).toNat = [high, low] := by
      rw [UInt16.toNat_ofNat_of_lt' below]
      exact Bytes.ofNat_toNat [high, low]
    rw [List.flatMap_cons, pair, ih fewer]
    rfl
  | case2 bytes fewer =>
    rcases bytes with _ | ⟨high, _ | ⟨low, rest⟩⟩
    · rfl
    · simp at even
    · exact absurd rfl (fewer high low rest)

theorem toBytes_of_ofBytes? {bytes : Bytes} {address : Ipv6} (h : ofBytes? bytes = some address) :
    address.toBytes = bytes := by
  unfold ofBytes? ofGroups? at h
  split at h
  · rename_i width
    split at h
    · obtain rfl := Option.some.inj h
      exact flatMap_groupsOfBytes bytes (by rw [width])
    · cases h
  · cases h

end Ipv6

namespace IpAddress

@[simp] theorem ofV4Bytes?_toBytes (address : Ipv4) : ofV4Bytes? address.toBytes = some (.v4 address) := by
  rw [ofV4Bytes?, Ipv4.ofBytes?_toBytes]
  rfl

@[simp] theorem ofV6Bytes?_toBytes (address : Ipv6) : ofV6Bytes? address.toBytes = some (.v6 address) := by
  rw [ofV6Bytes?, Ipv6.ofBytes?_toBytes]
  rfl

theorem exists_ofV4Bytes? {bytes : Bytes} (width : bytes.length = 4) :
    ∃ address : Ipv4, ofV4Bytes? bytes = some (.v4 address) ∧ address.toBytes = bytes := by
  obtain ⟨address, spelled⟩ := Ipv4.exists_ofBytes? width
  exact ⟨address, by rw [ofV4Bytes?, spelled]; rfl, Ipv4.toBytes_of_ofBytes? spelled⟩

theorem exists_ofV6Bytes? {bytes : Bytes} (width : bytes.length = 16) :
    ∃ address : Ipv6, ofV6Bytes? bytes = some (.v6 address) ∧ address.toBytes = bytes := by
  obtain ⟨address, spelled⟩ := Ipv6.exists_ofBytes? width
  exact ⟨address, by rw [ofV6Bytes?, spelled]; rfl, Ipv6.toBytes_of_ofBytes? spelled⟩

end IpAddress

end FlowCollector
