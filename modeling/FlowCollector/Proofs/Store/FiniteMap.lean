import FlowCollector.Address.Text
import FlowCollector.Proofs.Store.Requests
import Mathlib.Data.Finmap

/-!
# The store as two finite maps

The store is described here a second time and without its tables: a finite map from the keys of templates to templates,
and another from the keys of samplers to rates. A request asks or changes one of them, and the other does not hear of
it. How many templates there are is how many keys there are, and a removal counts the keys that go, not those that stay.

The store answers as the maps do, request by request. Of two addresses that stand for one host each has its own keys in
both maps, since a key is only what it is.
-/

set_option autoImplicit false

namespace FlowCollector

namespace Table

variable {κ α : Type} [Ranked κ]

/-- A `Table` has one entry for each key that finds a value, so its size is how many keys there are. -/
theorem size_eq_card [DecidableEq κ] {table : Table κ α} {keys : Finset κ}
    (same : ∀ key, key ∈ keys ↔ (table.get? key).isSome) : table.size = keys.card := by
  have once : (table.entries.map (·.1)).Nodup := by
    rw [List.nodup_iff_pairwise_ne, List.pairwise_map]
    refine table.rising.imp fun below alike => ?_
    rw [alike] at below
    exact Nat.lt_irrefl _ below
  have all : keys = (table.entries.map (·.1)).toFinset := by
    ext key
    rw [same, Option.isSome_iff_exists, List.mem_toFinset, List.mem_map]
    constructor
    · rintro ⟨value, found⟩
      exact ⟨(key, value), get?_eq_some_iff.1 found, rfl⟩
    · rintro ⟨⟨_, value⟩, there, rfl⟩
      exact ⟨value, get?_eq_some_iff.2 there⟩
  rw [all, List.toFinset_card_of_nodup once, List.length_map]
  rfl

end Table

namespace Store

/-! ## Two maps -/

/-- Templates and sampling rates, each in a map of its own, by the keys that a `Store` has for them. -/
structure Maps where
  templates : Finmap fun _ : TemplateKey => Template
  rates : Finmap fun _ : SamplerKey => UInt64

namespace Maps

def empty : Maps := ⟨∅, ∅⟩

instance : EmptyCollection Maps := ⟨empty⟩

/-- A map without the keys of a kind: what a removal leaves. -/
def without {κ α : Type} [DecidableEq κ] (map : Finmap fun _ : κ => α) (gone : κ → Prop) [DecidablePred gone] :
    Finmap fun _ : κ => α :=
  Finmap.keysLookupEquiv.symm
    ⟨(map.keys.filter (¬ gone ·), fun key => if gone key then none else map.lookup key), fun key => by
      by_cases kind : gone key <;> simp [kind, Finmap.lookup_isSome, Finmap.mem_keys]⟩

/-- What the maps answer to a `Request`, and what it makes of them. -/
def answer (maps : Maps) : Request → Answer × Maps
  | .upsert key template =>
    (.template (maps.templates.lookup key), { maps with templates := maps.templates.insert key template })
  | .lookup key => (.template (maps.templates.lookup key), maps)
  | .remove key => (.removed (key ∈ maps.templates), { maps with templates := maps.templates.erase key })
  | .removeDomain exporter domain =>
    (.removedCount (maps.templates.keys.filter fun key => key.exporter = exporter ∧ key.domain = domain).card,
      { maps with templates := without maps.templates fun key => key.exporter = exporter ∧ key.domain = domain })
  | .setRate key rate => (.done, { maps with rates := maps.rates.insert key rate })
  | .rate key => (.rate (maps.rates.lookup key), maps)

/-- What the maps `answer` to requests, one after another. -/
def answers (maps : Maps) : List Request → List Answer × Maps
  | [] => ([], maps)
  | request :: others =>
    let (first, maps) := maps.answer request
    let (rest, maps) := maps.answers others
    (first :: rest, maps)

theorem lookup_without {κ α : Type} [DecidableEq κ] (map : Finmap fun _ : κ => α) (gone : κ → Prop) [DecidablePred gone]
    (key : κ) : (without map gone).lookup key = if gone key then none else map.lookup key :=
  Finmap.keysLookupEquiv_symm_apply_lookup ..

theorem lookup_answer (maps : Maps) (request : Request) (key : TemplateKey) :
    (maps.answer request).2.templates.lookup key = (request.templateLeft? key).getD (maps.templates.lookup key) := by
  cases request with
  | upsert own template =>
    by_cases same : key = own
    · subst same
      simp [answer, Request.templateLeft?]
    · simp [answer, Request.templateLeft?, same, Finmap.lookup_insert_of_ne]
  | remove own =>
    by_cases same : key = own
    · subst same
      simp [answer, Request.templateLeft?]
    · simp [answer, Request.templateLeft?, same, Finmap.lookup_erase_ne]
  | removeDomain exporter domain =>
    simp only [answer, Request.templateLeft?, lookup_without]
    split <;> rfl
  | lookup _ => rfl
  | setRate _ _ => rfl
  | rate _ => rfl

theorem rate_answer (maps : Maps) (request : Request) (key : SamplerKey) :
    (maps.answer request).2.rates.lookup key = (request.rateLeft? key).getD (maps.rates.lookup key) := by
  cases request with
  | setRate own rate =>
    by_cases same : key = own
    · subst same
      simp [answer, Request.rateLeft?]
    · simp [answer, Request.rateLeft?, same, Finmap.lookup_insert_of_ne]
  | upsert _ _ => rfl
  | remove _ => rfl
  | removeDomain _ _ => rfl
  | lookup _ => rfl
  | rate _ => rfl

end Maps

/-! ## The store and the maps -/

/-- The maps have what the store finds, template by template and rate by rate. -/
structure IsMaps (store : Store) (maps : Maps) : Prop where
  templates : ∀ key, store.lookup? key = maps.templates.lookup key
  rates : ∀ key, store.rate? key = maps.rates.lookup key

namespace IsMaps

variable {store : Store} {maps : Maps}

theorem size_eq (same : store.IsMaps maps) : store.size = maps.templates.keys.card := by
  refine Table.size_eq_card fun key => ?_
  rw [Finmap.mem_keys, ← Finmap.lookup_isSome, ← same.templates key]
  rfl

theorem isEmpty_iff (same : store.IsMaps maps) : store.isEmpty = true ↔ maps.templates = ∅ := by
  rw [isEmpty, beq_iff_eq, same.size_eq, Finset.card_eq_zero]
  constructor
  · intro none
    refine Finmap.ext_lookup fun key => ?_
    rw [Finmap.lookup_empty, Finmap.lookup_eq_none, ← Finmap.mem_keys, none]
    exact Finset.notMem_empty key
  · rintro none
    rw [none, Finmap.keys_empty]

/-- The request leaves the same in both, so `IsMaps` is kept by rows of requests. -/
theorem answer (same : store.IsMaps maps) (request : Request) :
    (store.answer request).2.IsMaps (maps.answer request).2 where
  templates key := by rw [lookup?_answer, maps.lookup_answer, same.templates key]
  rates key := by rw [rate?_answer, maps.rate_answer, same.rates key]

theorem fst_answer (same : store.IsMaps maps) (request : Request) :
    (store.answer request).1 = (maps.answer request).1 := by
  cases request with
  | upsert key _ => exact congrArg Answer.template (same.templates key)
  | lookup key => exact congrArg Answer.template (same.templates key)
  | remove key =>
    have there : (store.lookup? key).isSome = decide (key ∈ maps.templates) := by
      rw [same.templates key, Bool.eq_iff_iff, decide_eq_true_iff, Finmap.lookup_isSome]
    exact congrArg Answer.removed there
  | removeDomain exporter domain =>
    have after := (same.answer (.removeDomain exporter domain)).size_eq
    have stay : (maps.answer (.removeDomain exporter domain)).2.templates.keys
        = maps.templates.keys.filter fun key => ¬ (key.exporter = exporter ∧ key.domain = domain) :=
      Finmap.keysLookupEquiv_symm_apply_keys _
    have parts := Finset.card_filter_add_card_filter_not (s := maps.templates.keys)
      fun key => key.exporter = exporter ∧ key.domain = domain
    rw [stay] at after
    have gone : store.size - (store.answer (.removeDomain exporter domain)).2.size
        = (maps.templates.keys.filter fun key => key.exporter = exporter ∧ key.domain = domain).card := by
      rw [same.size_eq, after, ← parts]
      omega
    exact congrArg Answer.removedCount gone
  | setRate _ _ => rfl
  | rate key => exact congrArg Answer.rate (same.rates key)

theorem answers (same : store.IsMaps maps) (requests : List Request) :
    (store.answers requests).1 = (maps.answers requests).1
      ∧ (store.answers requests).2.IsMaps (maps.answers requests).2 := by
  induction requests generalizing store maps with
  | nil => exact ⟨rfl, same⟩
  | cons request others ih =>
    obtain ⟨rest, after⟩ := ih (same.answer request)
    exact ⟨congr (congrArg List.cons (same.fst_answer request)) rest, after⟩

end IsMaps

theorem isMaps_empty : (∅ : Store).IsMaps ∅ := ⟨fun _ => rfl, fun _ => rfl⟩

/-! ## Neither map hears of the other -/

/-- True of the requests about templates. The others are about sampling rates, and neither kind reads what the other
changes. -/
def Request.isOfTemplates : Request → Bool
  | .upsert .. | .lookup _ | .remove _ | .removeDomain .. => true
  | .setRate .. | .rate _ => false

theorem templates_filter (store : Store) (requests : List Request) :
    (store.answers (requests.filter (·.isOfTemplates))).2.templates = (store.answers requests).2.templates := by
  refine Table.eq_of_get? fun key => ?_
  show lookup? _ key = lookup? _ key
  have touching (request : Request) :
      (if request.isOfTemplates then request.templateLeft? key else none) = request.templateLeft? key := by
    cases request <;> rfl
  rw [lookup?_answers, lookup?_answers, List.filterMap_filter]
  simp only [touching]

theorem rates_filter (store : Store) (requests : List Request) :
    (store.answers (requests.filter (!·.isOfTemplates))).2.rates = (store.answers requests).2.rates := by
  refine Table.eq_of_get? fun key => ?_
  show rate? _ key = rate? _ key
  have touching (request : Request) :
      (if !request.isOfTemplates then request.rateLeft? key else none) = request.rateLeft? key := by
    cases request <;> rfl
  rw [rate?_answers, rate?_answers, List.filterMap_filter]
  simp only [touching]

end Store

/-- The IPv6 address that stands for an IPv4 address. As a key it is another one. -/
def Ipv4.mapped (address : Ipv4) : Ipv6 := ⟨[0, 0, 0, 0, 0, 0xffff] ++ address.groups, rfl⟩

/-- Whatever an empty store is asked, `Store.answers` has the answers of two `Maps` that are empty at first, and by
then it has as many templates as the first has keys. What it knows of templates comes of the requests about templates
(`isOfTemplates`), and the rates of those about rates: so no removal takes a rate. An address and the one that maps it
(`Ipv4.mapped`) have keys of their own. -/
theorem store_as_two_maps (requests : List Store.Request) :
    let store := (Store.answers ∅ requests).2
    let maps := (Store.Maps.answers ∅ requests).2
    (Store.answers ∅ requests).1 = (Store.Maps.answers ∅ requests).1
      ∧ store.size = maps.templates.keys.card
      ∧ (store.isEmpty = true ↔ maps.templates = ∅)
      ∧ (∀ key, store.lookup? key = maps.templates.lookup key)
      ∧ (∀ key, store.rate? key = maps.rates.lookup key)
      ∧ store.templates = (Store.answers ∅ (requests.filter (·.isOfTemplates))).2.templates
      ∧ store.rates = (Store.answers ∅ (requests.filter (!·.isOfTemplates))).2.rates
      ∧ ∀ (address : Ipv4) (domain : UInt32),
          (∀ id, (⟨.v4 address, domain, id⟩ : TemplateKey) ≠ ⟨.v6 address.mapped, domain, id⟩)
            ∧ ∀ sampler, (⟨.v4 address, domain, sampler⟩ : SamplerKey) ≠ ⟨.v6 address.mapped, domain, sampler⟩ := by
  intro store maps
  obtain ⟨answered, same⟩ := Store.isMaps_empty.answers requests
  exact ⟨answered, same.size_eq, same.isEmpty_iff, same.templates, same.rates, (Store.templates_filter _ _).symm,
    (Store.rates_filter _ _).symm, fun _ _ => ⟨by simp, by simp⟩⟩

/-- Withdrawing all of a domain leaves the mapped address and the rate. -/
example :
    let plain : IpAddress := .v4 ⟨192, 0, 2, 1⟩
    let mapped : IpAddress := .v6 (Ipv4.mapped ⟨192, 0, 2, 1⟩)
    let template : Template := ⟨.data, []⟩
    (Store.answers ∅ [.upsert ⟨plain, 7, 256⟩ template, .upsert ⟨plain, 7, 257⟩ template,
        .upsert ⟨mapped, 7, 256⟩ template, .setRate ⟨plain, 7, 1⟩ 64, .removeDomain plain 7, .remove ⟨plain, 7, 256⟩,
        .lookup ⟨mapped, 7, 256⟩, .rate ⟨plain, 7, 1⟩]).1
      = [.template none, .template none, .template none, .done, .removedCount 2, .removed false,
        .template (some template), .rate (some 64)] :=
  by decide +kernel

end FlowCollector
