import FlowCollector.Proofs.Reader.Spelling
import FlowCollector.Sum

/-!
# How far reading goes

What a reader reads is paid for with bytes, and the bytes are there once. Where every item takes some, the items are no
more than the bytes, and one try more finds that nothing is left. A count above that is not reached, so it makes no
difference which count it is.
-/

set_option autoImplicit false

namespace FlowCollector.Reader

variable {α : Type} {item : Reader α}

namespace Spells

/-- What a reader that `Spells` something leaves is the end of what was there. -/
theorem isSuffix {P : α → Bytes → Prop} {reader : Reader α} (h : Spells reader P) {bytes rest : Bytes} {value : α}
    (read : reader bytes = .ok (value, rest)) : rest <:+ bytes := by
  obtain ⟨front, -, rfl⟩ := h _ _ _ read
  exact List.suffix_append front rest

/-- What is left is shorter by what was taken, if what was read `Spells` so many bytes. -/
theorem length_add_le {size : α → Nat} {reader : Reader α}
    (h : Spells reader fun value front => size value ≤ front.length) {bytes rest : Bytes} {value : α}
    (read : reader bytes = .ok (value, rest)) : rest.length + size value ≤ bytes.length := by
  obtain ⟨front, taken, rfl⟩ := h _ _ _ read
  rw [List.length_append]
  omega

/-! ## Items and the bytes they take -/

section

variable {size : α → Nat} (h : Spells item fun value front => size value ≤ front.length)

include h

theorem sumOf_upTo_le (count : Nat) (bytes : Bytes) : sumOf size (Reader.upTo count item bytes).1 ≤ bytes.length := by
  induction count generalizing bytes with
  | zero => exact Nat.zero_le _
  | succ count ih =>
    unfold Reader.upTo
    cases read : item bytes with
    | error error => exact Nat.zero_le _
    | ok found =>
      obtain ⟨first, rest⟩ := found
      have own := h.length_add_le read
      have others := ih rest
      dsimp only [sumOf]
      omega

theorem sumOf_many_le (least : Nat) (bytes : Bytes) : sumOf size (Reader.many least item bytes).1 ≤ bytes.length := by
  fun_induction Reader.many least item bytes with
  | case1 => exact Nat.zero_le _
  | case2 => exact Nat.zero_le _
  | case3 bytes enough first rest read progress others ending run ih =>
    have own := h.length_add_le read
    rw [run] at ih
    dsimp only [sumOf] at ih ⊢
    omega
  | case4 bytes enough first rest read =>
    have own := h.length_add_le read
    dsimp only [sumOf]
    omega

end

end Spells

/-! ## Counts -/

/-- How often `upTo` tries an item: once for each value, and once more where that fails. -/
def tries (item : Reader α) (count : Nat) (bytes : Bytes) : Nat :=
  (upTo count item bytes).1.length + (upTo count item bytes).2.toList.length

/-- An item that takes something each time it is read. A run of such items ends with the bytes. -/
abbrev Onward (item : Reader α) : Prop := Spells item fun _ front => 1 ≤ front.length

variable (onward : Onward item)

include onward

theorem Onward.length_lt {bytes rest : Bytes} {value : α} (read : item bytes = .ok (value, rest)) :
    rest.length < bytes.length :=
  onward.length_add_le read

theorem upTo_of_length_lt {count other : Nat} {bytes : Bytes} (above : bytes.length < count)
    (otherAbove : bytes.length < other) : upTo count item bytes = upTo other item bytes := by
  induction count generalizing other bytes with
  | zero => omega
  | succ count ih =>
    obtain ⟨other, rfl⟩ := Nat.exists_eq_succ_of_ne_zero (Nat.ne_zero_of_lt otherAbove)
    unfold upTo
    cases read : item bytes with
    | error error => rfl
    | ok found =>
      obtain ⟨first, rest⟩ := found
      have shorter : rest.length < bytes.length := onward.length_lt read
      dsimp only
      rw [ih (by omega) (show rest.length < other by omega)]

theorem times_of_length_lt {count other : Nat} {bytes : Bytes} (above : bytes.length < count)
    (otherAbove : bytes.length < other) : times count item bytes = times other item bytes := by
  induction count generalizing other bytes with
  | zero => omega
  | succ count ih =>
    obtain ⟨other, rfl⟩ := Nat.exists_eq_succ_of_ne_zero (Nat.ne_zero_of_lt otherAbove)
    rw [times, times]
    cases read : item bytes with
    | error error => rw [bind_error read, bind_error read]
    | ok found =>
      obtain ⟨first, rest⟩ := found
      have shorter : rest.length < bytes.length := onward.length_lt read
      have others := ih (by omega) (show rest.length < other by omega)
      rw [bind_ok read, bind_ok read]
      cases behind : times count item rest with
      | error error => rw [bind_error behind, bind_error (others.symm.trans behind)]
      | ok found => rw [bind_ok behind, bind_ok (others.symm.trans behind)]

theorem tries_le (count : Nat) (bytes : Bytes) : tries item count bytes ≤ bytes.length + 1 := by
  induction count generalizing bytes with
  | zero => exact Nat.zero_le _
  | succ count ih =>
    unfold tries upTo
    cases read : item bytes with
    | error error => exact Nat.le_add_left _ _
    | ok found =>
      obtain ⟨first, rest⟩ := found
      have shorter : rest.length < bytes.length := onward.length_lt read
      have others := ih rest
      unfold tries at others
      dsimp only
      rw [List.length_cons]
      omega

end FlowCollector.Reader
