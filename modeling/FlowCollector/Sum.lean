/-!
# Sums over lists

`sumOf` is what the items of a list come to, each of them counted by a size of its own: the lengths of
fields, the datagrams at inputs, the acts that workers still have to do. Sums are compared when one item of
a list has changed, and so the lemmas say what one item does to a sum.
-/

set_option autoImplicit false

namespace FlowCollector

variable {α : Type}

/-- What the items of a list come to, each by its `size`. -/
def sumOf (size : α → Nat) : List α → Nat
  | [] => 0
  | item :: others => size item + sumOf size others

theorem sumOf_append (size : α → Nat) (items others : List α) :
    sumOf size (items ++ others) = sumOf size items + sumOf size others := by
  induction items with
  | nil => simp [sumOf]
  | cons first rest ih =>
    rw [List.cons_append, sumOf, sumOf, ih, Nat.add_assoc]

theorem sumOf_singleton (size : α → Nat) (item : α) : sumOf size [item] = size item := rfl

theorem sumOf_const_add (lead : Nat) (size : α → Nat) (items : List α) :
    sumOf (fun item => lead + size item) items = lead * items.length + sumOf size items := by
  induction items with
  | nil => rfl
  | cons first rest ih =>
    rw [sumOf, sumOf, ih, List.length_cons, Nat.mul_succ]
    omega

theorem sumOf_add (size more : α → Nat) (items : List α) :
    sumOf (fun item => size item + more item) items = sumOf size items + sumOf more items := by
  induction items with
  | nil => rfl
  | cons first rest ih =>
    rw [sumOf, sumOf, sumOf, ih]
    omega

theorem sumOf_mul_left (factor : Nat) (size : α → Nat) (items : List α) :
    sumOf (fun item => factor * size item) items = factor * sumOf size items := by
  induction items with
  | nil => rfl
  | cons first rest ih => rw [sumOf, sumOf, ih, Nat.mul_add]

/-- Leaving items out does not make a sum larger. -/
theorem sumOf_le_of_sublist (size : α → Nat) {some all : List α} (h : some.Sublist all) :
    sumOf size some ≤ sumOf size all := by
  induction h with
  | slnil => exact Nat.le_refl 0
  | cons item _ ih => exact Nat.le_trans ih (Nat.le_add_left ..)
  | cons_cons item _ ih => exact Nat.add_le_add_left ih _

/-- What is made of some of the items comes to no more than the items, if nothing that is made is larger than its
item. Fields that are shown are made of values in this way. -/
theorem sumOf_filterMap_le {β : Type} {size : α → Nat} {sizeMade : β → Nat} {make : α → Option β} (items : List α)
    (h : ∀ item made, make item = some made → sizeMade made ≤ size item) :
    sumOf sizeMade (items.filterMap make) ≤ sumOf size items := by
  induction items with
  | nil => exact Nat.le_refl 0
  | cons first rest ih =>
    rw [List.filterMap_cons]
    split
    · exact Nat.le_trans ih (Nat.le_add_left ..)
    · rename_i made isMade
      exact Nat.add_le_add (h first made isMade) ih

/-- Items that are left over when others are set beside them do not make a sum larger. -/
theorem sumOf_zip_le {β : Type} (size : α → Nat) (others : List β) (items : List α) :
    sumOf (fun pair : β × α => size pair.2) (others.zip items) ≤ sumOf size items := by
  induction others generalizing items with
  | nil => exact Nat.zero_le _
  | cons other others ih =>
    cases items with
    | nil => exact Nat.le_refl 0
    | cons item items => exact Nat.add_le_add_left (ih items) _

/-- Items that each come to something are no more than all come to: a count is a sum of ones. -/
theorem countP_le_sumOf {size : α → Nat} {picks : α → Bool} (items : List α)
    (h : ∀ item, picks item → 1 ≤ size item) : items.countP picks ≤ sumOf size items := by
  induction items with
  | nil => exact Nat.le_refl 0
  | cons first rest ih =>
    rw [List.countP_cons, sumOf]
    split
    · rename_i picked
      have := h first picked
      omega
    · omega

theorem length_flatMap_eq_sumOf {β : Type} (make : α → List β) (items : List α) :
    (items.flatMap make).length = sumOf (fun item => (make item).length) items := by
  induction items with
  | nil => rfl
  | cons first rest ih => rw [List.flatMap_cons, List.length_append, ih, sumOf]

/-- Replacing an item by `List.set` changes a sum by the difference of the two. -/
theorem sumOf_set (size : α → Nat) {items : List α} {index : Nat} {old : α} (new : α)
    (h : items[index]? = some old) :
    sumOf size (items.set index new) + size old = sumOf size items + size new := by
  induction items generalizing index with
  | nil => simp at h
  | cons first rest ih =>
    cases index with
    | zero =>
      obtain rfl : first = old := by simpa using h
      simp only [List.set_cons_zero, sumOf]
      omega
    | succ index =>
      have := @ih index (by simpa using h)
      simp only [List.set_cons_succ, sumOf]
      omega

/-- Removing an item by `List.eraseIdx` makes a sum smaller by it. -/
theorem sumOf_eraseIdx (size : α → Nat) {items : List α} {index : Nat} {old : α}
    (h : items[index]? = some old) :
    sumOf size (items.eraseIdx index) + size old = sumOf size items := by
  induction items generalizing index with
  | nil => simp at h
  | cons first rest ih =>
    cases index with
    | zero =>
      obtain rfl : first = old := by simpa using h
      simp only [List.eraseIdx_cons_zero, sumOf]
      omega
    | succ index =>
      have := @ih index (by simpa using h)
      simp only [List.eraseIdx_cons_succ, sumOf]
      omega

/-- A sum does not grow when no item does, whatever place each item is in. -/
theorem sumOf_mapIdx_le (size : α → Nat) (change : Nat → α → α) (items : List α)
    (h : ∀ index item, size (change index item) ≤ size item) :
    sumOf size (items.mapIdx change) ≤ sumOf size items := by
  induction items generalizing change with
  | nil => exact Nat.le_refl _
  | cons first rest ih =>
    rw [List.mapIdx_cons, sumOf, sumOf]
    exact Nat.add_le_add (h 0 first) (ih _ fun index => h (index + 1))

/-- A sum stays when every item's part of it does, as when an item changes in what `size` does not see. -/
theorem sumOf_modify (size : α → Nat) (change : α → α) (items : List α) (index : Nat)
    (h : ∀ item, size (change item) = size item) :
    sumOf size (items.modify index change) = sumOf size items := by
  induction items generalizing index with
  | nil => simp
  | cons first rest ih =>
    cases index with
    | zero => simp only [List.modify_zero_cons, sumOf, h]
    | succ index => simp only [List.modify_succ_cons, sumOf, ih]

end FlowCollector
