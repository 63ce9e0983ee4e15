import FlowCollector.Template.Store

/-!
# What a store finds

A table is known by what it finds for each key, and these are the laws of that: an insertion changes one
key, and a filter changes those that it drops. Nobody above this file looks at the list of entries. The
laws of the store follow from them, one for each operation and each of the two tables, so an operation
that left a key alone can be seen to have done so.
-/

set_option autoImplicit false

namespace FlowCollector

namespace Table

open Ranked (rank rank_injective)

variable {κ α : Type} [Ranked κ]

theorem lookupIn_insertIn_self (key : κ) (value : α) (entries : List (κ × α)) :
    lookupIn key (insertIn key value entries) = some value := by
  induction entries with
  | nil => simp [insertIn, lookupIn]
  | cons first rest ih =>
    obtain ⟨k, v⟩ := first
    simp only [insertIn]
    split
    · simp [lookupIn]
    · split
      · simp [lookupIn]
      · rename_i other
        rw [lookupIn, if_neg fun same => other same.symm, ih]

theorem lookupIn_insertIn_of_ne {key sought : κ} (ne : sought ≠ key) (value : α)
    (entries : List (κ × α)) :
    lookupIn sought (insertIn key value entries) = lookupIn sought entries := by
  have apart : rank key ≠ rank sought := fun same => ne (rank_injective same).symm
  induction entries with
  | nil => simp [insertIn, lookupIn, apart]
  | cons first rest ih =>
    obtain ⟨k, v⟩ := first
    simp only [insertIn]
    split
    · rw [lookupIn, if_neg apart]
    · split
      · rename_i same
        rw [lookupIn, if_neg apart, lookupIn, if_neg (same ▸ apart)]
      · simp only [lookupIn, ih]

theorem lookupIn_filter (keep : κ → Bool) (sought : κ) (entries : List (κ × α)) :
    lookupIn sought (entries.filter fun entry => keep entry.1)
      = if keep sought then lookupIn sought entries else none := by
  induction entries with
  | nil => simp [lookupIn]
  | cons first rest ih =>
    obtain ⟨k, v⟩ := first
    by_cases same : rank k = rank sought
    · obtain rfl := rank_injective same
      by_cases kept : keep k <;> simp [lookupIn, kept, ih]
    · by_cases kept : keep k <;> simp [lookupIn, kept, ih, same]

@[simp] theorem get?_insert_self (table : Table κ α) (key : κ) (value : α) :
    (table.insert key value).get? key = some value :=
  lookupIn_insertIn_self key value table.entries

theorem get?_insert_of_ne {key sought : κ} (ne : sought ≠ key) (table : Table κ α) (value : α) :
    (table.insert key value).get? sought = table.get? sought :=
  lookupIn_insertIn_of_ne ne value table.entries

theorem get?_filterKeys (table : Table κ α) (keep : κ → Bool) (sought : κ) :
    (table.filterKeys keep).get? sought = if keep sought then table.get? sought else none :=
  lookupIn_filter keep sought table.entries

theorem get?_erase_of_ne {key sought : κ} (ne : sought ≠ key) (table : Table κ α) :
    (table.erase key).get? sought = table.get? sought := by
  have apart : rank sought ≠ rank key := fun same => ne (rank_injective same)
  rw [erase, get?_filterKeys, if_pos (by simpa using apart)]

@[simp] theorem get?_erase_self (table : Table κ α) (key : κ) : (table.erase key).get? key = none := by
  rw [erase, get?_filterKeys, if_neg (by simp)]

/-! ## How many -/

theorem length_insertIn_le (key : κ) (value : α) (entries : List (κ × α)) :
    (insertIn key value entries).length ≤ entries.length + 1 := by
  induction entries with
  | nil => simp [insertIn]
  | cons first rest ih =>
    simp only [insertIn]
    split
    · simp
    · split
      · simp
      · simpa using ih

theorem size_insert_le (table : Table κ α) (key : κ) (value : α) :
    (table.insert key value).size ≤ table.size + 1 :=
  length_insertIn_le key value table.entries

theorem size_filterKeys_le (table : Table κ α) (keep : κ → Bool) :
    (table.filterKeys keep).size ≤ table.size :=
  List.length_filter_le _ table.entries

/-! ## One table for each map -/

theorem lookupIn_cons_self (key : κ) (value : α) (entries : List (κ × α)) :
    lookupIn key ((key, value) :: entries) = some value :=
  if_pos rfl

theorem lookupIn_cons_of_ne {key sought : κ} (ne : sought ≠ key) (value : α) (entries : List (κ × α)) :
    lookupIn sought ((key, value) :: entries) = lookupIn sought entries :=
  if_neg fun same => ne (rank_injective same).symm

theorem lookupIn_eq_none {sought : κ} {entries : List (κ × α)}
    (above : ∀ entry ∈ entries, rank sought < rank entry.1) : lookupIn sought entries = none := by
  induction entries with
  | nil => rfl
  | cons first rest ih =>
    have apart : sought ≠ first.1 := by
      rintro rfl
      exact Nat.lt_irrefl _ (above first List.mem_cons_self)
    rw [lookupIn_cons_of_ne apart]
    exact ih fun entry mem => above entry (List.mem_cons_of_mem first mem)

/-- No key that is found stands in front of the first, since the entries of a `Table` rise. -/
theorem rank_le_of_lookupIn {key sought : κ} {value found : α} {entries : List (κ × α)}
    (rising : ((key, value) :: entries).Pairwise fun x y => rank x.1 < rank y.1)
    (h : lookupIn sought ((key, value) :: entries) = some found) : rank key ≤ rank sought := by
  rcases Nat.lt_or_ge (rank sought) (rank key) with below | above
  · have missed : lookupIn sought ((key, value) :: entries) = none := by
      apply lookupIn_eq_none
      intro entry mem
      rcases List.mem_cons.1 mem with rfl | mem
      · exact below
      · exact Nat.lt_trans below ((List.pairwise_cons.1 rising).1 entry mem)
    rw [missed] at h
    cases h
  · exact above

theorem eq_of_lookupIn {entries others : List (κ × α)} (rising : entries.Pairwise fun x y => rank x.1 < rank y.1)
    (risingToo : others.Pairwise fun x y => rank x.1 < rank y.1)
    (same : ∀ sought, lookupIn sought entries = lookupIn sought others) : entries = others := by
  induction entries generalizing others with
  | nil =>
    cases others with
    | nil => rfl
    | cons other behind =>
      have found := same other.1
      rw [lookupIn_cons_self] at found
      cases found
  | cons first rest ih =>
    obtain ⟨key, value⟩ := first
    have own := same key
    rw [lookupIn_cons_self] at own
    cases others with
    | nil => cases own
    | cons other behind =>
      obtain ⟨key', value'⟩ := other
      -- Each list finds the first key of the other, so both start with the least of all keys.
      have theirs := same key'
      rw [lookupIn_cons_self] at theirs
      have least : rank key = rank key' :=
        Nat.le_antisymm (rank_le_of_lookupIn rising theirs) (rank_le_of_lookupIn risingToo own.symm)
      obtain rfl := rank_injective least
      rw [lookupIn_cons_self] at own
      obtain rfl := Option.some.inj own
      rw [List.pairwise_cons] at rising risingToo
      suffices behind_same : ∀ sought, lookupIn sought rest = lookupIn sought behind by
        rw [ih rising.2 risingToo.2 behind_same]
      intro sought
      by_cases first : sought = key
      · subst first
        rw [lookupIn_eq_none rising.1, lookupIn_eq_none risingToo.1]
      · have alike := same sought
        rwa [lookupIn_cons_of_ne first, lookupIn_cons_of_ne first] at alike

/-- Since no key has two entries, what `get?` finds is what is there. -/
theorem get?_eq_some_iff {table : Table κ α} {key : κ} {value : α} :
    table.get? key = some value ↔ (key, value) ∈ table.entries := by
  obtain ⟨entries, rising⟩ := table
  show lookupIn key entries = some value ↔ (key, value) ∈ entries
  induction entries with
  | nil => simp [lookupIn]
  | cons first rest ih =>
    obtain ⟨k, v⟩ := first
    obtain ⟨below, restRising⟩ := List.pairwise_cons.1 rising
    rw [lookupIn, List.mem_cons, Prod.mk.injEq]
    split
    case isTrue same =>
      obtain rfl := rank_injective same
      have once : (k, value) ∉ rest := by
        intro there
        have less : rank k < rank k := below (k, value) there
        omega
      simp [once, eq_comm]
    case isFalse other =>
      rw [ih restRising]
      have apart : key ≠ k := by
        rintro rfl
        exact other rfl
      simp [apart]

/-- A table is known by what it finds: two that find the same have the same entries. -/
theorem eq_of_get? {table other : Table κ α} (same : ∀ key, table.get? key = other.get? key) : table = other := by
  obtain ⟨entries, rising⟩ := table
  obtain ⟨others, risingToo⟩ := other
  have lists : entries = others := eq_of_lookupIn rising risingToo same
  subst lists
  rfl

end Table

namespace Store

/-! ## Templates -/

@[simp] theorem lookup?_upsert_self (store : Store) (key : TemplateKey) (template : Template) :
    (store.upsert key template).lookup? key = some template :=
  store.templates.get?_insert_self key template

theorem lookup?_upsert_of_ne {key sought : TemplateKey} (ne : sought ≠ key) (store : Store)
    (template : Template) : (store.upsert key template).lookup? sought = store.lookup? sought :=
  Table.get?_insert_of_ne ne store.templates template

@[simp] theorem lookup?_remove_self (store : Store) (key : TemplateKey) :
    (store.remove key).lookup? key = none :=
  store.templates.get?_erase_self key

theorem lookup?_remove_of_ne {key sought : TemplateKey} (ne : sought ≠ key) (store : Store) :
    (store.remove key).lookup? sought = store.lookup? sought :=
  Table.get?_erase_of_ne ne store.templates

theorem lookup?_removeDomain (store : Store) (exporter : IpAddress) (domain : UInt32)
    (sought : TemplateKey) :
    (store.removeDomain exporter domain).lookup? sought
      = if sought.exporter = exporter ∧ sought.domain = domain then none
        else store.lookup? sought := by
  show (store.templates.filterKeys _).get? sought = _
  rw [Table.get?_filterKeys]
  by_cases inside : sought.exporter = exporter ∧ sought.domain = domain <;> simp [inside, lookup?]

/-- What is known when a template has been dropped by `remove` was known before. -/
theorem lookup?_of_remove {store : Store} {key sought : TemplateKey} {template : Template}
    (known : (store.remove key).lookup? sought = some template) :
    store.lookup? sought = some template := by
  by_cases same : sought = key
  · rw [same, lookup?_remove_self] at known
    cases known
  · rwa [lookup?_remove_of_ne same] at known

theorem lookup?_of_removeDomain {store : Store} {exporter : IpAddress} {domain : UInt32}
    {sought : TemplateKey} {template : Template}
    (known : (store.removeDomain exporter domain).lookup? sought = some template) :
    store.lookup? sought = some template := by
  rw [lookup?_removeDomain] at known
  split at known
  · cases known
  · exact known

@[simp] theorem lookup?_setRate (store : Store) (key : SamplerKey) (rate : UInt64)
    (sought : TemplateKey) : (store.setRate key rate).lookup? sought = store.lookup? sought := rfl

/-! ## Sampling rates -/

@[simp] theorem rate?_setRate_self (store : Store) (key : SamplerKey) (rate : UInt64) :
    (store.setRate key rate).rate? key = some rate :=
  store.rates.get?_insert_self key rate

theorem rate?_setRate_of_ne {key sought : SamplerKey} (ne : sought ≠ key) (store : Store)
    (rate : UInt64) : (store.setRate key rate).rate? sought = store.rate? sought :=
  Table.get?_insert_of_ne ne store.rates rate

@[simp] theorem rate?_upsert (store : Store) (key : TemplateKey) (template : Template)
    (sought : SamplerKey) : (store.upsert key template).rate? sought = store.rate? sought := rfl

@[simp] theorem rate?_remove (store : Store) (key : TemplateKey) (sought : SamplerKey) :
    (store.remove key).rate? sought = store.rate? sought := rfl

@[simp] theorem rate?_removeDomain (store : Store) (exporter : IpAddress) (domain : UInt32)
    (sought : SamplerKey) :
    (store.removeDomain exporter domain).rate? sought = store.rate? sought := rfl

/-- A store is known by the templates and the rates that it finds, by `lookup?` and `rate?`. -/
theorem eq_of_finds {store other : Store} (templates : ∀ key, store.lookup? key = other.lookup? key)
    (rates : ∀ key, store.rate? key = other.rate? key) : store = other := by
  obtain ⟨known, learned⟩ := store
  obtain ⟨knownToo, learnedToo⟩ := other
  obtain rfl : known = knownToo := Table.eq_of_get? templates
  obtain rfl : learned = learnedToo := Table.eq_of_get? rates
  rfl

end Store

end FlowCollector
