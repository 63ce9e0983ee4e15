/-!
# Tables

A table maps finitely many keys to values. It is held as a list whose keys are in rising order of their
rank, and the order is part of the type. That is not for the sake of the order, which nothing shows:
it leaves one list only for each map, so two tables in which every key finds the same value are equal
and not merely alike.
-/

set_option autoImplicit false

namespace FlowCollector

/-- Keys that can be put in order, by a number that no two of them share. The order is what makes a `Table` unique. -/
class Ranked (κ : Type) where
  rank : κ → Nat
  rank_injective : ∀ {k l : κ}, rank k = rank l → k = l

open Ranked (rank)

/-- A finite map: entries in rising order of their rank, so no key has two. -/
structure Table (κ α : Type) [Ranked κ] where
  entries : List (κ × α)
  rising : entries.Pairwise fun x y => rank x.1 < rank y.1

namespace Table

variable {κ α : Type} [Ranked κ]

instance [DecidableEq κ] [DecidableEq α] : DecidableEq (Table κ α) := fun s t =>
  decidable_of_iff (s.entries = t.entries) (by cases s; cases t; simp)

def empty : Table κ α := ⟨[], .nil⟩

instance : EmptyCollection (Table κ α) := ⟨empty⟩

/-- How many keys have a value, which is how many entries there are. -/
def size (table : Table κ α) : Nat := table.entries.length

/-- The value of a key in a list of entries, the first if there were several. -/
def lookupIn (key : κ) : List (κ × α) → Option α
  | [] => none
  | (k, v) :: rest => if rank k = rank key then some v else lookupIn key rest

/-- The value of a key, by `lookupIn`. -/
def get? (table : Table κ α) (key : κ) : Option α := lookupIn key table.entries

/-- A key and its value put in their place in the order, instead of what the key had. -/
def insertIn (key : κ) (value : α) : List (κ × α) → List (κ × α)
  | [] => [(key, value)]
  | (k, v) :: rest =>
    if rank key < rank k then (key, value) :: (k, v) :: rest
    else if rank key = rank k then (key, value) :: rest
    else (k, v) :: insertIn key value rest

theorem mem_insertIn {key : κ} {value : α} {entries : List (κ × α)} {entry : κ × α}
    (h : entry ∈ insertIn key value entries) : entry = (key, value) ∨ entry ∈ entries := by
  induction entries with
  | nil => simpa [insertIn] using h
  | cons first rest ih =>
    obtain ⟨k, v⟩ := first
    simp only [insertIn] at h
    split at h
    · simpa using h
    · split at h
      · rcases List.mem_cons.1 h with rfl | h
        · exact .inl rfl
        · exact .inr (List.mem_cons_of_mem _ h)
      · rcases List.mem_cons.1 h with rfl | h
        · exact .inr List.mem_cons_self
        · exact (ih h).imp_right (List.mem_cons_of_mem _)

theorem insertIn_rising {key : κ} {value : α} {entries : List (κ × α)}
    (rising : entries.Pairwise fun x y => rank x.1 < rank y.1) :
    (insertIn key value entries).Pairwise fun x y => rank x.1 < rank y.1 := by
  induction entries with
  | nil => simp [insertIn]
  | cons first rest ih =>
    obtain ⟨k, v⟩ := first
    rw [List.pairwise_cons] at rising
    simp only [insertIn]
    split
    case isTrue below =>
      refine List.pairwise_cons.2 ⟨fun entry mem => ?_, List.pairwise_cons.2 rising⟩
      rcases List.mem_cons.1 mem with rfl | mem
      · exact below
      · exact Nat.lt_trans below (rising.1 entry mem)
    case isFalse notBelow =>
      split
      case isTrue same =>
        exact List.pairwise_cons.2 ⟨fun entry mem => same ▸ rising.1 entry mem, rising.2⟩
      case isFalse other =>
        refine List.pairwise_cons.2 ⟨fun entry mem => ?_, ih rising.2⟩
        rcases mem_insertIn mem with rfl | mem
        · show rank k < rank key
          omega
        · exact rising.1 entry mem

/-- Gives a key a value by `insertIn`, instead of the one it had. -/
def insert (table : Table κ α) (key : κ) (value : α) : Table κ α :=
  ⟨insertIn key value table.entries, insertIn_rising table.rising⟩

/-- Keeps the keys that pass a test, with their values. -/
def filterKeys (table : Table κ α) (keep : κ → Bool) : Table κ α :=
  ⟨table.entries.filter fun entry => keep entry.1, table.rising.filter _⟩

/-- Takes a key's value away, by `filterKeys`. -/
def erase (table : Table κ α) (key : κ) : Table κ α :=
  table.filterKeys fun k => rank k != rank key

end Table

end FlowCollector
