import FlowCollector.Element
import FlowCollector.Proofs.Fold
import FlowCollector.Proofs.Reader.Spelling

/-!
# Numbers in one to eight bytes

A number comes in as many bytes as its sender likes, eight at most. Written in a width that can hold it, it is read as
what it is, and nothing else is read as the same number in that width: zeros in front are bytes of the width and not
of the number.

The widest number there is fills a register of 64 bits. `Bytes.gather` is how such a register comes by a number, and
eight bytes are the most of which no bit is pushed out of it.
-/

set_option autoImplicit false

namespace FlowCollector

namespace Bytes

/-- Bytes are digits to the base 256: `Bytes.toNat` is `Nat.ofDigits` from the other end. -/
theorem toNat_eq_ofDigits (bytes : Bytes) : bytes.toNat = Nat.ofDigits 256 (bytes.map UInt8.toNat).reverse := by
  rw [← foldl_eq_ofDigits, List.foldl_map]
  rfl

/-- Zeros in front are worth nothing, so they do not tell how wide a number was written. -/
theorem toNat_zeros_append (zeros : Nat) (bytes : Bytes) :
    toNat (List.replicate zeros 0 ++ bytes) = bytes.toNat := by
  rw [toNat_eq_ofDigits, toNat_eq_ofDigits, List.map_append, List.map_replicate, List.reverse_append,
    List.reverse_replicate]
  exact Nat.ofDigits_append_replicate_zero _

/-- What bytes spell fits into every width that they fit into themselves, which with at most eight bytes is one of 64
bits. -/
theorem toNat_lt_of_length_le {bytes : Bytes} {width : Nat} (short : bytes.length ≤ width) :
    bytes.toNat < Nat.pow 256 width :=
  Nat.lt_of_lt_of_le bytes.toNat_lt (Nat.pow_le_pow_right (by decide) short)

/-! ## A register -/

/-- A number as a register of 64 bits gathers it: what is there moves up by eight bits for each byte, and the byte
takes their place. `readUnsigned?` is this on up to eight bytes. -/
def gather (bytes : Bytes) : UInt64 := bytes.foldl (fun register byte => register <<< 8 ||| byte.toUInt64) 0

theorem gather_concat (bytes : Bytes) (byte : UInt8) :
    gather (bytes ++ [byte]) = bytes.gather <<< 8 ||| byte.toUInt64 := by
  simp [gather, List.foldl_append]

/-- Where a number has eight bits to spare, none of its own is lost when it moves up by as many, as a step of `gather`
has it. -/
theorem toNat_shiftLeft_of_lt {register : UInt64} (spare : register.toNat < Nat.pow 256 7) :
    (register <<< 8).toNat = register.toNat <<< 8 := by
  have : Nat.pow 256 7 = 2 ^ 56 := rfl
  rw [UInt64.toNat_shiftLeft]
  show register.toNat <<< 8 % 2 ^ 64 = register.toNat <<< 8
  rw [Nat.shiftLeft_eq]
  omega

theorem toNat_gather {bytes : Bytes} (short : bytes.length ≤ 8) : bytes.gather.toNat = bytes.toNat := by
  induction bytes using List.reverseRecOn with
  | nil => rfl
  | append_singleton front last ih =>
    rw [List.length_append, List.length_singleton] at short
    have own := ih (by omega)
    have spare : (gather front).toNat < Nat.pow 256 7 := by
      rw [own]
      exact toNat_lt_of_length_le (by omega)
    calc (gather (front ++ [last])).toNat
        = (gather front).toNat <<< 8 ||| last.toNat := by
          rw [gather_concat, UInt64.toNat_or, toNat_shiftLeft_of_lt spare, UInt8.toNat_toUInt64]
      _ = (gather front).toNat <<< 8 + last.toNat := (Nat.shiftLeft_add_eq_or_of_lt last.toNat_lt _).symm
      _ = toNat (front ++ [last]) := by rw [own, toNat_concat, Nat.shiftLeft_eq]

/-- Up to the eighth byte what `gather` holds can move back and be what it was. -/
theorem gather_shiftLeft_shiftRight {bytes : Bytes} (spare : bytes.length < 8) :
    bytes.gather <<< 8 >>> 8 = bytes.gather := by
  have below : bytes.gather.toNat < Nat.pow 256 7 := by
    rw [toNat_gather (by omega)]
    exact toNat_lt_of_length_le (by omega)
  rw [← UInt64.toNat_inj, UInt64.toNat_shiftRight, toNat_shiftLeft_of_lt below]
  exact Nat.shiftLeft_shiftRight _ 8

end Bytes

/-! ## Reading -/

theorem map_toNat_readUnsigned? (value : Bytes) :
    (readUnsigned? value).map UInt64.toNat
      = if 1 ≤ value.length ∧ value.length ≤ 8 then some (Bytes.toNat value) else none := by
  unfold readUnsigned?
  split
  · rename_i width
    exact congrArg some (UInt64.toNat_ofNat_of_lt' (Bytes.toNat_lt_of_length_le width.2))
  · rfl

theorem isSome_readUnsigned? (value : Bytes) :
    (readUnsigned? value).isSome ↔ 1 ≤ value.length ∧ value.length ≤ 8 := by
  unfold readUnsigned?
  split <;> simp [*]

theorem readUnsigned?_eq_some_iff {bytes : Bytes} {value : UInt64} :
    readUnsigned? bytes = some value ↔ (1 ≤ bytes.length ∧ bytes.length ≤ 8) ∧ value.toNat = bytes.toNat := by
  have read := map_toNat_readUnsigned? bytes
  constructor
  · intro h
    rw [h, Option.map_some] at read
    split at read
    · rename_i width
      exact ⟨width, Option.some.inj read⟩
    · cases read
  · rintro ⟨width, same⟩
    rw [if_pos width, ← same] at read
    obtain ⟨word, found, alike⟩ := Option.map_eq_some_iff.1 read
    rw [found, UInt64.toNat_inj.1 alike]

section

variable {width number : Nat} {bytes other : Bytes} {value : UInt64}

theorem exists_readUnsigned?_ofNat (least : 1 ≤ width) (most : width ≤ 8) (fits : number < Nat.pow 256 width) :
    ∃ word, readUnsigned? (Bytes.ofNat width number) = some word ∧ word.toNat = number := by
  have word : (UInt64.ofNat number).toNat = number :=
    UInt64.toNat_ofNat_of_lt' (Nat.lt_of_lt_of_le fits (Nat.pow_le_pow_right (by decide) most))
  refine ⟨.ofNat number, readUnsigned?_eq_some_iff.2 ⟨?_, ?_⟩, word⟩
  · rw [Bytes.length_ofNat]
    exact ⟨least, most⟩
  · rw [word, Bytes.toNat_ofNat_of_lt fits]

/-- What `readUnsigned?` reads tells the bytes, if their width is known. -/
theorem ofNat_of_readUnsigned? (read : readUnsigned? bytes = some value) :
    Bytes.ofNat bytes.length value.toNat = bytes := by
  rw [(readUnsigned?_eq_some_iff.1 read).2, bytes.ofNat_toNat]

theorem eq_of_readUnsigned? (width : other.length = bytes.length) (read : readUnsigned? bytes = some value)
    (again : readUnsigned? other = some value) : other = bytes := by
  rw [← ofNat_of_readUnsigned? again, width, ofNat_of_readUnsigned? read]

theorem readUnsigned?_zeros_append {zeros : Nat} (room : zeros + bytes.length ≤ 8)
    (read : readUnsigned? bytes = some value) : readUnsigned? (List.replicate zeros 0 ++ bytes) = some value := by
  obtain ⟨⟨least, -⟩, same⟩ := readUnsigned?_eq_some_iff.1 read
  refine readUnsigned?_eq_some_iff.2 ⟨?_, by rw [same, Bytes.toNat_zeros_append]⟩
  rw [List.length_append, List.length_replicate]
  omega

theorem eq_gather_of_readUnsigned? (read : readUnsigned? bytes = some value) : value = bytes.gather := by
  obtain ⟨⟨-, most⟩, same⟩ := readUnsigned?_eq_some_iff.1 read
  rw [← UInt64.toNat_inj, same, Bytes.toNat_gather most]

theorem readUnsigned?_eq_none_iff : readUnsigned? bytes = none ↔ bytes.length = 0 ∨ 8 < bytes.length := by
  rw [← Option.not_isSome_iff_eq_none, isSome_readUnsigned?]
  omega

end

/-- Every number that a width of one to eight bytes can hold, written by `Bytes.ofNat`, is read by `readUnsigned?` as
what it is. And whatever is read, the bytes are what `Bytes.ofNat` writes for it in their width: there is no other way
to write it there, zeros in front do no harm as long as there are eight bytes at most, and `Bytes.gather` comes to it
without pushing out a bit on the way. In no byte, and in more than eight, there is no number. -/
theorem unsigned_in_any_width :
    (∀ width value, 1 ≤ width → width ≤ 8 → value < Nat.pow 256 width →
        ∃ word, readUnsigned? (Bytes.ofNat width value) = some word ∧ word.toNat = value)
      ∧ (∀ (bytes : Bytes) (value : UInt64), readUnsigned? bytes = some value →
          value.toNat < Nat.pow 256 bytes.length
            ∧ Bytes.ofNat bytes.length value.toNat = bytes
            ∧ value.toNat = Nat.ofDigits 256 (bytes.map UInt8.toNat).reverse
            ∧ (∀ other : Bytes, other.length = bytes.length → readUnsigned? other = some value → other = bytes)
            ∧ (∀ zeros, zeros + bytes.length ≤ 8 → readUnsigned? (List.replicate zeros 0 ++ bytes) = some value)
            ∧ value = bytes.gather
            ∧ ∀ (front : Bytes) (byte : UInt8) (back : Bytes), bytes = front ++ byte :: back →
              front.gather <<< 8 >>> 8 = front.gather)
      ∧ ∀ bytes : Bytes, readUnsigned? bytes = none ↔ bytes.length = 0 ∨ 8 < bytes.length := by
  refine ⟨fun width value least most fits => exists_readUnsigned?_ofNat least most fits,
    fun bytes value read => ?_, fun bytes => readUnsigned?_eq_none_iff⟩
  obtain ⟨⟨-, most⟩, same⟩ := readUnsigned?_eq_some_iff.1 read
  refine ⟨?_, ofNat_of_readUnsigned? read, ?_, fun other width again => eq_of_readUnsigned? width read again,
    fun zeros room => readUnsigned?_zeros_append room read, eq_gather_of_readUnsigned? read, ?_⟩
  · rw [same]
    exact bytes.toNat_lt
  · rw [same]
    exact bytes.toNat_eq_ofDigits
  · intro front byte back parts
    rw [parts, List.length_append, List.length_cons] at most
    exact Bytes.gather_shiftLeft_shiftRight (by omega)

/-- The greatest number of eight bytes leaves no bit of the register to spare, and a small one of two bytes comes in eight
as well. -/
theorem unsigned_in_any_width_to_the_limit :
    (∃ word, readUnsigned? (Bytes.ofNat 8 18446744073709551615) = some word ∧ word.toNat = 18446744073709551615)
      ∧ Bytes.gather (List.replicate 7 0xff) <<< 8 >>> 8 = Bytes.gather (List.replicate 7 0xff)
      ∧ Bytes.ofNat 2 1500 = [0x05, 0xdc]
      ∧ readUnsigned? (List.replicate 6 0 ++ [0x05, 0xdc]) = some 1500 := by
  obtain ⟨reads, exact, -⟩ := unsigned_in_any_width
  have greatest : readUnsigned? (List.replicate 8 0xff) = some 18446744073709551615 := by decide
  have small : readUnsigned? [0x05, 0xdc] = some 1500 := by decide
  obtain ⟨-, -, -, -, -, -, spare⟩ := exact _ _ greatest
  obtain ⟨-, written, -, -, zeros, -, -⟩ := exact _ _ small
  exact ⟨reads 8 _ (by decide) (by decide) (by decide), spare _ 0xff [] rfl, written, zeros 6 (by decide)⟩

end FlowCollector
