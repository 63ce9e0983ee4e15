import FlowCollector.Proofs.Store
import FlowCollector.Tally

/-!
# What a tally comes to

Adding to a key changes what that key counts and nothing else, and the total by as much. A key that counts
nothing has no entry, so whether a key is there can be told from its count.
-/

set_option autoImplicit false

namespace FlowCollector

namespace Table

open Ranked (rank rank_injective)

variable {κ α : Type} [Ranked κ]

theorem sumOf_insertIn {entries : List (κ × Nat)} (key : κ) (value : Nat)
    (rising : entries.Pairwise fun x y => rank x.1 < rank y.1) :
    sumOf (·.2) (insertIn key value entries) + (lookupIn key entries).getD 0
      = sumOf (·.2) entries + value := by
  induction entries with
  | nil => simp [insertIn, lookupIn, sumOf]
  | cons first rest ih =>
    obtain ⟨k, v⟩ := first
    obtain ⟨below, restRising⟩ := List.pairwise_cons.1 rising
    simp only [insertIn]
    split
    case isTrue front =>
      have absent : lookupIn key ((k, v) :: rest) = none := by
        refine lookupIn_eq_none fun entry there => ?_
        rcases List.mem_cons.1 there with rfl | there
        · exact front
        · exact Nat.lt_trans front (below entry there)
      rw [absent]
      simp only [sumOf, Option.getD_none]
      omega
    case isFalse notFront =>
      split
      case isTrue same =>
        rw [lookupIn, if_pos same.symm]
        simp only [sumOf, Option.getD_some]
        omega
      case isFalse other =>
        have later := ih restRising
        rw [lookupIn, if_neg fun same => other same.symm]
        simp only [sumOf]
        omega

/-- Of the entries of a `Table`, those of one key are the one that is found. -/
theorem filter_key [DecidableEq κ] (table : Table κ α) (key : κ) :
    table.entries.filter (fun entry => entry.1 = key) = (table.get? key).toList.map (key, ·) := by
  obtain ⟨entries, rising⟩ := table
  show entries.filter _ = (lookupIn key entries).toList.map _
  induction entries with
  | nil => rfl
  | cons first rest ih =>
    obtain ⟨k, v⟩ := first
    obtain ⟨below, restRising⟩ := List.pairwise_cons.1 rising
    rw [lookupIn]
    split
    case isTrue same =>
      obtain rfl := rank_injective same
      rw [List.filter_cons_of_pos (by simp), ih restRising, lookupIn_eq_none below]
      rfl
    case isFalse other =>
      have apart : k ≠ key := by
        rintro rfl
        exact other rfl
      rw [List.filter_cons_of_neg (by simpa using apart), ih restRising]

end Table

namespace Tally

variable {κ : Type} [Ranked κ]

@[simp] theorem count_empty (key : κ) : count ∅ key = 0 := rfl

@[simp] theorem total_empty : total (∅ : Tally κ) = 0 := rfl

theorem count_add [DecidableEq κ] (tally : Tally κ) (key : κ) (amount : Nat) (sought : κ) :
    count (add tally key amount) sought
      = count tally sought + if key = sought then amount else 0 := by
  unfold add
  split
  case isTrue zero => simp [zero]
  case isFalse _ =>
    by_cases same : key = sought
    · subst same
      rw [if_pos rfl, count, Table.get?_insert_self, Option.getD_some]
    · rw [if_neg same, count, Table.get?_insert_of_ne (Ne.symm same), count, Nat.add_zero]

theorem total_add (tally : Tally κ) (key : κ) (amount : Nat) :
    total (add tally key amount) = total tally + amount := by
  unfold add
  split
  case isTrue zero => rw [zero, Nat.add_zero]
  case isFalse _ =>
    have changed := Table.sumOf_insertIn key (count tally key + amount) tally.rising
    have before : (Table.lookupIn key tally.entries).getD 0 = count tally key := rfl
    show sumOf (·.2) (Table.insertIn key (count tally key + amount) tally.entries)
      = sumOf (·.2) tally.entries + amount
    omega

/-- No key has an entry that counts nothing. `Tally.add` makes none, since it leaves out an amount of zero. -/
def Positive (tally : Tally κ) : Prop := ∀ entry ∈ tally.entries, 0 < entry.2

theorem positive_empty : Positive (∅ : Tally κ) := nofun

theorem Positive.add {tally : Tally κ} (h : Positive tally) (key : κ) (amount : Nat) :
    Positive (Tally.add tally key amount) := by
  unfold Tally.add
  split
  · exact h
  · intro entry there
    rcases Table.mem_insertIn there with rfl | there
    · dsimp only
      omega
    · exact h entry there

/-- Whether a key of a `Positive` tally has an entry can be told from what it counts. -/
theorem Positive.get? {tally : Tally κ} (h : Positive tally) (key : κ) :
    tally.get? key = if count tally key = 0 then none else some (count tally key) := by
  cases found : tally.get? key with
  | none => simp [count, found]
  | some value =>
    have positive : 0 < value := h _ (Table.get?_eq_some_iff.1 found)
    simp [count, found, Nat.ne_of_gt positive]

end Tally

end FlowCollector
