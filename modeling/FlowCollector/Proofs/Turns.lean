import FlowCollector.Decoded
import FlowCollector.Sum

/-!
# Whose turn it is

The parts of a datagram are decoded one after another, and what comes of one hangs on the memory that it finds when its
turn comes. `Decoded.turns` lists the parts with that memory, and with it the results are told part by part: nothing
is in them that no turn gave.

A part that leaves the memory as it found it can be left out, and the others do not notice: each has the turn it had.
-/

set_option autoImplicit false

namespace FlowCollector

/-- A row is another without some of its items, each of which may go. The others keep their order. -/
inductive Thinned {α : Type} (MayGo : α → Prop) : List α → List α → Prop
  | nil : Thinned MayGo [] []
  | keep (item : α) {items kept : List α} (others : Thinned MayGo items kept) :
    Thinned MayGo (item :: items) (item :: kept)
  | leave {item : α} {items kept : List α} (may : MayGo item) (others : Thinned MayGo items kept) :
    Thinned MayGo (item :: items) kept

namespace Thinned

variable {α β : Type} {MayGo : α → Prop} {items kept : List α}

theorem refl (items : List α) : Thinned MayGo items items := by
  induction items with
  | nil => exact .nil
  | cons item _ ih => exact .keep item ih

theorem sublist (thinned : Thinned MayGo items kept) : kept.Sublist items := by
  induction thinned with
  | nil => exact .slnil
  | keep item _ ih => exact ih.cons_cons item
  | leave _ _ ih => exact ih.cons _

/-- What is made of each item is the same in a `Thinned` row, if nothing is made of the items that may go. -/
theorem flatMap_eq (thinned : Thinned MayGo items kept) {make : α → List β}
    (nothing : ∀ item, MayGo item → make item = []) :
    kept.flatMap make = items.flatMap make := by
  induction thinned with
  | nil => rfl
  | keep item _ ih => rw [List.flatMap_cons, List.flatMap_cons, ih]
  | leave may _ ih => rw [List.flatMap_cons, nothing _ may, ih, List.nil_append]

theorem sumOf_eq (thinned : Thinned MayGo items kept) {size : α → Nat} (nothing : ∀ item, MayGo item → size item = 0) :
    sumOf size kept = sumOf size items := by
  induction thinned with
  | nil => rfl
  | keep item _ ih => rw [sumOf, sumOf, ih]
  | leave may _ ih => rw [sumOf, nothing _ may, ih, Nat.zero_add]

end Thinned

namespace Decoded

variable {α σ : Type}

/-- Each part with the memory that it finds when its turn comes in `sequence`. -/
def turns (part : α → σ → Decoded × σ) : List α → σ → List (α × σ)
  | [], _ => []
  | item :: others, memory => (item, memory) :: turns part others (part item memory).2

/-- What a part gives at its turn, over the memory that it finds. -/
def given (part : α → σ → Decoded × σ) (turn : α × σ) : Decoded := (part turn.1 turn.2).1

variable (part : α → σ → Decoded × σ) (items : List α) (memory : σ)

theorem map_fst_turns : (turns part items memory).map Prod.fst = items := by
  induction items generalizing memory with
  | nil => rfl
  | cons item others ih => rw [turns, List.map_cons, ih]

theorem records_sequence :
    (sequence part items memory).1.records = (turns part items memory).flatMap fun turn => (given part turn).records := by
  induction items generalizing memory with
  | nil => rfl
  | cons item others ih =>
    rw [turns, List.flatMap_cons, ← ih]
    rfl

theorem errors_sequence :
    (sequence part items memory).1.errors = (turns part items memory).flatMap fun turn => (given part turn).errors := by
  induction items generalizing memory with
  | nil => rfl
  | cons item others ih =>
    rw [turns, List.flatMap_cons, ← ih]
    rfl

theorem templatesUpserted_sequence :
    (sequence part items memory).1.templatesUpserted
      = sumOf (fun turn => (given part turn).templatesUpserted) (turns part items memory) := by
  induction items generalizing memory with
  | nil => rfl
  | cons item others ih =>
    rw [turns, sumOf, ← ih]
    rfl

variable {part items memory}

/-- Without parts that leave the memory alone, each of the others has the turn that it had in `turns`, and the memory
that is left is the same. -/
theorem turns_of_thinned {MayGo : α × σ → Prop} (alone : ∀ turn, MayGo turn → (part turn.1 turn.2).2 = turn.2)
    {kept : List (α × σ)} (thinned : Thinned MayGo (turns part items memory) kept) :
    turns part (kept.map Prod.fst) memory = kept
      ∧ (sequence part (kept.map Prod.fst) memory).2 = (sequence part items memory).2 := by
  induction items generalizing memory kept with
  | nil =>
    cases thinned with
    | nil => exact ⟨rfl, rfl⟩
  | cons item others ih =>
    cases thinned with
    | keep _ rest =>
      obtain ⟨same, left⟩ := ih rest
      exact ⟨congrArg ((item, memory) :: ·) same, left⟩
    | leave may rest =>
      have unchanged : (part item memory).2 = memory := alone _ may
      rw [unchanged] at rest
      obtain ⟨same, left⟩ := ih rest
      refine ⟨same, left.trans ?_⟩
      show _ = (sequence part others (part item memory).2).2
      rw [unchanged]

end Decoded

end FlowCollector
