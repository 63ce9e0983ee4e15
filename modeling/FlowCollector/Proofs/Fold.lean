import Mathlib.Data.Nat.Digits.Defs

/-!
# What is left of a row

A member of a state that a row of items is folded into is known from the row alone if each item either replaces it or
leaves it: it is what the last of the items said, or what it was. Where items of a second kind fill it in only while it
is empty, the first of those counts, and no place among the others takes that from it.

Digits are a row of which no item is forgotten: each leaves its own in the number.
-/

set_option autoImplicit false

namespace FlowCollector

variable {σ ι β : Type} {step : σ → ι → σ}

/-- If each item either replaces what `look` sees or leaves it, a fold over items ends with what the last item said
that said something, or with what was there before. -/
theorem foldl_last (look : σ → β) {said? : ι → Option β}
    (each : ∀ state item, look (step state item) = (said? item).getD (look state)) (state : σ) (items : List ι) :
    look (items.foldl step state) = (items.filterMap said?).getLast?.getD (look state) := by
  induction items generalizing state with
  | nil => rfl
  | cons item others ih =>
    rw [List.foldl_cons, ih, each, List.filterMap_cons]
    cases said? item with
    | none => rfl
    | some value =>
      rw [List.getLast?_cons]
      rfl

theorem foldl_kept (look : σ → β) (each : ∀ state item, look (step state item) = look state) (state : σ)
    (items : List ι) : look (items.foldl step state) = look state := by
  induction items generalizing state with
  | nil => rfl
  | cons item others ih => rw [List.foldl_cons, ih, each]

/-- Of the items that replace the last one counts, wherever it stands. Those that only offer something count as long
as nothing is known, so of them it is the first. Neither kind has to stand in front of the other. -/
theorem foldl_preferred (look : σ → Option β) {said? offered? : ι → Option β}
    (each : ∀ state item, look (step state item) = (said? item).or ((look state).or (offered? item))) (state : σ)
    (items : List ι) :
    look (items.foldl step state)
      = (items.filterMap said?).getLast?.or ((look state).or (items.filterMap offered?).head?) := by
  induction items generalizing state with
  | nil => simp
  | cons item others ih =>
    have last : ((item :: others).filterMap said?).getLast? = (others.filterMap said?).getLast?.or (said? item) := by
      rw [List.filterMap_cons]
      cases said? item with
      | none => rw [Option.or_none]
      | some value =>
        rw [List.getLast?_cons]
        cases (others.filterMap said?).getLast? <;> rfl
    have first : ((item :: others).filterMap offered?).head?
        = (offered? item).or (others.filterMap offered?).head? := by
      rw [List.filterMap_cons]
      cases offered? item <;> rfl
    rw [List.foldl_cons, ih, each, last, first]
    simp only [Option.or_assoc]

/-- What digits are worth that are read from the front, which is `Nat.ofDigits` of them from the back. -/
theorem foldl_eq_ofDigits (base : Nat) (digits : List Nat) :
    digits.foldl (fun value digit => value * base + digit) 0 = Nat.ofDigits base digits.reverse := by
  rw [Nat.ofDigits_eq_foldr, List.foldr_reverse]
  congr 1
  funext value digit
  rw [Nat.cast_id, Nat.add_comm, Nat.mul_comm]

end FlowCollector
