import FlowCollector.Address
import FlowCollector.Table
import FlowCollector.Template

/-!
# The template store

What a collector remembers between datagrams: the templates, and the sampling rates that options records
announced. Every key starts with the exporter and its observation domain, and the store is the only
thing that outlives a datagram, so what one exporter says in one domain can reach no other.

Nothing expires. A template goes when its exporter withdraws it, and a rate never goes.
-/

set_option autoImplicit false

namespace FlowCollector

namespace IpAddress

/-- The place of an address in the order of keys: IPv4 first, then IPv6, by value. An address and the one that maps it
have two places. -/
def rank : IpAddress → Nat
  | .v4 ⟨a, b, c, d⟩ => ((a.toNat * 256 + b.toNat) * 256 + c.toNat) * 256 + d.toNat
  | .v6 address => UInt32.size + address.groups.foldl (fun value group => value * 65536 + group.toNat) 0

theorem foldl_groups_injective {groups others : List UInt16} (same : groups.length = others.length)
    {m n : Nat}
    (h : groups.foldl (fun value group => value * 65536 + group.toNat) m
      = others.foldl (fun value group => value * 65536 + group.toNat) n) :
    m = n ∧ groups = others := by
  induction groups generalizing others m n with
  | nil =>
    cases others with
    | nil => exact ⟨h, rfl⟩
    | cons _ _ => cases same
  | cons group groups ih =>
    cases others with
    | nil => cases same
    | cons other others =>
      obtain ⟨front, rest⟩ := ih (Nat.succ.inj same) h
      have front : m * 65536 + group.toNat = n * 65536 + other.toNat := front
      have := group.toNat_lt
      have := other.toNat_lt
      refine ⟨by omega, ?_⟩
      rw [rest, UInt16.toNat_inj.1 (by omega : group.toNat = other.toNat)]

theorem rank_injective {x y : IpAddress} (h : x.rank = y.rank) : x = y := by
  match x, y, h with
  | .v4 ⟨a, b, c, d⟩, .v4 ⟨a', b', c', d'⟩, h =>
    simp only [rank] at h
    have := a.toNat_lt; have := b.toNat_lt; have := c.toNat_lt; have := d.toNat_lt
    have := a'.toNat_lt; have := b'.toNat_lt; have := c'.toNat_lt; have := d'.toNat_lt
    rw [UInt8.toNat_inj.1 (by omega : a.toNat = a'.toNat),
      UInt8.toNat_inj.1 (by omega : b.toNat = b'.toNat),
      UInt8.toNat_inj.1 (by omega : c.toNat = c'.toNat),
      UInt8.toNat_inj.1 (by omega : d.toNat = d'.toNat)]
  | .v4 ⟨a, b, c, d⟩, .v6 _, h =>
    simp only [rank, UInt32.size] at h
    have := a.toNat_lt; have := b.toNat_lt; have := c.toNat_lt; have := d.toNat_lt
    omega
  | .v6 _, .v4 ⟨a, b, c, d⟩, h =>
    simp only [rank, UInt32.size] at h
    have := a.toNat_lt; have := b.toNat_lt; have := c.toNat_lt; have := d.toNat_lt
    omega
  | .v6 ⟨groups, length⟩, .v6 ⟨others, length'⟩, h =>
    simp only [rank] at h
    have same := foldl_groups_injective (length.trans length'.symm) (Nat.add_left_cancel h)
    simp [same.2]

instance : Ranked IpAddress := ⟨rank, rank_injective⟩

end IpAddress

/-- What a template is known by: who announced it, in which domain, under which number. -/
structure TemplateKey where
  exporter : IpAddress
  domain : UInt32
  id : UInt16
  deriving DecidableEq, Repr

/-- What an announced sampling rate is known by: who announced it, in which domain, for which sampler. -/
structure SamplerKey where
  exporter : IpAddress
  domain : UInt32
  sampler : UInt64
  deriving DecidableEq, Repr

instance : Ranked TemplateKey where
  rank key := (key.exporter.rank * UInt32.size + key.domain.toNat) * UInt16.size + key.id.toNat
  rank_injective {k l} h := by
    have := k.domain.toNat_lt; have := l.domain.toNat_lt
    have := k.id.toNat_lt; have := l.id.toNat_lt
    obtain ⟨exporter, domain, id⟩ := k
    obtain ⟨exporter', domain', id'⟩ := l
    simp only [UInt32.size, UInt16.size] at *
    rw [IpAddress.rank_injective (by omega : exporter.rank = exporter'.rank),
      UInt32.toNat_inj.1 (by omega : domain.toNat = domain'.toNat),
      UInt16.toNat_inj.1 (by omega : id.toNat = id'.toNat)]

instance : Ranked SamplerKey where
  rank key := (key.exporter.rank * UInt32.size + key.domain.toNat) * UInt64.size + key.sampler.toNat
  rank_injective {k l} h := by
    have := k.domain.toNat_lt; have := l.domain.toNat_lt
    have := k.sampler.toNat_lt; have := l.sampler.toNat_lt
    obtain ⟨exporter, domain, sampler⟩ := k
    obtain ⟨exporter', domain', sampler'⟩ := l
    simp only [UInt32.size, UInt64.size] at *
    rw [IpAddress.rank_injective (by omega : exporter.rank = exporter'.rank),
      UInt32.toNat_inj.1 (by omega : domain.toNat = domain'.toNat),
      UInt64.toNat_inj.1 (by omega : sampler.toNat = sampler'.toNat)]

/-- Templates and sampling rates, of every exporter and domain, in a `Table` each. -/
structure Store where
  templates : Table TemplateKey Template
  rates : Table SamplerKey UInt64
  deriving DecidableEq

namespace Store

def empty : Store := ⟨∅, ∅⟩

instance : EmptyCollection Store := ⟨empty⟩

/-- How many templates are known, of all exporters together. Rates are not counted. -/
def size (store : Store) : Nat := store.templates.size

def isEmpty (store : Store) : Bool := store.size == 0

/-- The template that was last stored by `upsert` under a key, unless it was removed. -/
def lookup? (store : Store) (key : TemplateKey) : Option Template := store.templates.get? key

/-- Remembers a template instead of the one its key had, if any. -/
def upsert (store : Store) (key : TemplateKey) (template : Template) : Store :=
  { store with templates := store.templates.insert key template }

/-- Forgets the template of a key, and no rate. -/
def remove (store : Store) (key : TemplateKey) : Store :=
  { store with templates := store.templates.erase key }

/-- Forgets every template that an exporter announced in a domain. The rates stay. -/
def removeDomain (store : Store) (exporter : IpAddress) (domain : UInt32) : Store :=
  { store with
    templates := store.templates.filterKeys fun key =>
      !(key.exporter == exporter && key.domain == domain) }

/-- The rate that was last announced for a sampler, by `setRate`. -/
def rate? (store : Store) (key : SamplerKey) : Option UInt64 := store.rates.get? key

/-- Remembers a rate instead of the one its sampler had. `Session.record` never gives it zero. -/
def setRate (store : Store) (key : SamplerKey) (rate : UInt64) : Store :=
  { store with rates := store.rates.insert key rate }

end Store

end FlowCollector
