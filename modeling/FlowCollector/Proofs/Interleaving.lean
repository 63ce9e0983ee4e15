import Mathlib.Data.List.Perm.Basic

/-!
# Interleavings

Several lists grow into one: whoever has a next item puts it at the end. `Interleaving lists merged` says
that `merged` can have come about like that, with each of `lists` put in its own order and all of it put.
Nothing is said of whose turn it is, so it is a statement about every order of turns.
-/

set_option autoImplicit false

namespace FlowCollector

open scoped List

variable {α : Type}

/-! ## Taking an item out of a list -/

theorem perm_eraseIdx {items : List α} {index : Nat} {item : α} (h : items[index]? = some item) :
    items ~ item :: items.eraseIdx index := by
  obtain ⟨inside, rfl⟩ := List.getElem?_eq_some_iff.1 h
  exact (List.getElem_cons_eraseIdx_perm inside).symm

theorem set_perm_eraseIdx {items : List α} {index : Nat} (item : α) (h : index < items.length) :
    items.set index item ~ item :: items.eraseIdx index := by
  have out := perm_eraseIdx (List.getElem?_set_self h : (items.set index item)[index]? = some item)
  rwa [List.eraseIdx_set_eq] at out

theorem set_eq_self {items : List α} {index : Nat} {item : α} (h : items[index]? = some item) :
    items.set index item = items := by
  obtain ⟨inside, rfl⟩ := List.getElem?_eq_some_iff.1 h
  exact List.set_getElem_self inside

/-- What is left of several lists without the empty ones, where nothing hangs on how many of those there are. -/
def nonempty (lists : List (List α)) : List (List α) := lists.filter fun list => !list.isEmpty

theorem nonempty_nil_cons (lists : List (List α)) : nonempty ([] :: lists) = nonempty lists := rfl

theorem nonempty_cons_cons (item : α) (items : List α) (lists : List (List α)) :
    nonempty ((item :: items) :: lists) = (item :: items) :: nonempty lists := rfl

theorem nonempty_perm {lists others : List (List α)} (h : lists ~ others) :
    nonempty lists ~ nonempty others :=
  h.filter _

theorem nonempty_perm_cons (list : List α) {lists others : List (List α)}
    (h : nonempty lists ~ nonempty others) :
    nonempty (list :: lists) ~ nonempty (list :: others) := by
  cases list with
  | nil => exact h
  | cons item items => exact h.cons _

/-- Leaving out the empty lists by `nonempty` loses no item. -/
theorem flatten_nonempty (lists : List (List α)) : (nonempty lists).flatten = lists.flatten := by
  induction lists with
  | nil => rfl
  | cons first others ih =>
    cases first with
    | nil => rw [nonempty_nil_cons, ih, List.flatten_cons, List.nil_append]
    | cons item items => rw [nonempty_cons_cons, List.flatten_cons, List.flatten_cons, ih]

/-! ## Interleavings -/

/-- A list that is made of the items of others, those of each in their order. `turn` puts the last item, and the list
it belongs to is known by its number. -/
inductive Interleaving : List (List α) → List α → Prop
  | start {lists : List (List α)} (h : ∀ list ∈ lists, list = []) : Interleaving lists []
  /-- The list by a number puts its next item behind all that were put before. -/
  | turn {lists : List (List α)} {merged list : List α} {index : Nat} (item : α)
      (found : lists[index]? = some list) (before : Interleaving lists merged) :
      Interleaving (lists.set index (list ++ [item])) (merged ++ [item])

namespace Interleaving

variable {lists : List (List α)} {merged : List α}

/-- No item is lost, and none comes twice, whoever had which turn. -/
theorem perm (h : Interleaving lists merged) : merged ~ lists.flatten := by
  induction h with
  | start empty =>
    rw [List.flatten_eq_nil_iff.2 empty]
  | @turn lists merged list index item found _ ih =>
    have inside := (List.getElem?_eq_some_iff.1 found).1
    calc merged ++ [item]
        ~ list ++ (lists.eraseIdx index).flatten ++ [item] :=
          (ih.trans (perm_eraseIdx found).flatten).append_right _
      _ ~ list ++ [item] ++ (lists.eraseIdx index).flatten := by
          rw [List.append_assoc, List.append_assoc]
          exact List.perm_append_comm.append_left list
      _ ~ (lists.set index (list ++ [item])).flatten :=
          (set_perm_eraseIdx _ inside).flatten.symm

/-- One more list, of which nothing has been put, makes no difference to what was. -/
theorem join (h : Interleaving lists merged) : Interleaving (lists ++ [[]]) merged := by
  induction h with
  | start empty =>
    refine .start fun list there => ?_
    rcases List.mem_append.1 there with other | new
    · exact empty list other
    · exact List.mem_singleton.1 new
  | @turn lists merged list index item found _ ih =>
    have inside := (List.getElem?_eq_some_iff.1 found).1
    -- The new list stands behind all others, so their turns are what they were.
    rw [← List.set_append_left index _ inside]
    refine .turn item ?_ ih
    rw [List.getElem?_append_left inside]
    exact found

/-- A list of which there is nothing to be put can be left out, and `turn` never names it. -/
theorem of_nil_cons (h : Interleaving ([] :: lists) merged) : Interleaving lists merged := by
  generalize several : [] :: lists = all at h
  induction h generalizing lists with
  | start empty =>
    rw [← several] at empty
    exact .start (List.forall_mem_cons.1 empty).2
  | @turn before merged list index item found _ ih =>
    cases before with
    | nil => cases found
    | cons first rest =>
      cases index with
      | zero =>
        -- Whoever has put an item has something.
        rw [List.set_cons_zero] at several
        exact absurd (List.cons.inj several).1 (by simp)
      | succ index =>
        rw [List.set_cons_succ] at several
        obtain ⟨nothing, rfl⟩ := List.cons.inj several
        exact .turn item found (ih (by rw [nothing]))

end Interleaving

end FlowCollector
