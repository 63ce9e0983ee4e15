/-!
# Bytes on the wire

Everything a collector receives is a run of bytes, and every number in it is written most significant
byte first. A run is a `List UInt8` and not a `ByteArray`: lists are what recursion and proof can take
apart, and a socket's buffer converts at the edge.

`Bytes.toNat` reads a run of any length as one number and `Bytes.ofNat` writes a number into a run of a
given length. The second is not an inverse on everything: a number too large for the run loses its
high bytes, which is what a field of fixed width does on the wire.
-/

set_option autoImplicit false

namespace FlowCollector

/-- A run of bytes, first byte first. -/
abbrev Bytes := List UInt8

namespace Bytes

/-- The number that the bytes spell, most significant byte first. The empty run spells 0. There is no limit on the
length: `Reader.u16` and its like cut the run first. -/
def toNat (bytes : Bytes) : Nat :=
  bytes.foldl (fun value byte => value * 256 + byte.toNat) 0

/-- The low `width` bytes of a number, most significant byte first. `toNat_ofNat` says what is left of a number that
needs more. -/
def ofNat : (width value : Nat) → Bytes
  | 0, _ => []
  | width + 1, value => ofNat width (value / 256) ++ [UInt8.ofNat (value % 256)]

@[simp] theorem toNat_nil : toNat [] = 0 := rfl

theorem toNat_concat (bytes : Bytes) (byte : UInt8) :
    toNat (bytes ++ [byte]) = toNat bytes * 256 + byte.toNat := by
  simp [toNat, List.foldl_append]

@[simp] theorem length_ofNat (width value : Nat) : (ofNat width value).length = width := by
  induction width generalizing value with
  | zero => rfl
  | succ width ih => simp [ofNat, ih]

/-- Writing with `ofNat` and reading back with `toNat` reduces a number to the width it was given. -/
theorem toNat_ofNat (width value : Nat) : toNat (ofNat width value) = value % Nat.pow 256 width := by
  induction width generalizing value with
  | zero => exact (Nat.mod_one value).symm
  | succ width ih =>
    have lowest : (UInt8.ofNat (value % 256)).toNat = value % 256 :=
      UInt8.toNat_ofNat_of_lt' (Nat.mod_lt _ (by decide))
    calc toNat (ofNat (width + 1) value)
        = value / 256 % Nat.pow 256 width * 256 + value % 256 := by
          simp only [ofNat, toNat_concat, ih, lowest]
      _ = value % (256 * Nat.pow 256 width) := by rw [Nat.mod_mul]; omega
      _ = value % Nat.pow 256 (width + 1) := by rw [Nat.mul_comm]; rfl

theorem toNat_ofNat_of_lt {width value : Nat} (fits : value < Nat.pow 256 width) :
    toNat (ofNat width value) = value := by
  rw [toNat_ofNat, Nat.mod_eq_of_lt fits]

/-- A number of two bytes, written with `ofNat` and read back as `Reader.u16` does. -/
theorem ofNat_toNat_ofNat (word : UInt16) : UInt16.ofNat (toNat (ofNat 2 word.toNat)) = word := by
  rw [toNat_ofNat_of_lt word.toNat_lt, UInt16.ofNat_toNat]

end Bytes

end FlowCollector
