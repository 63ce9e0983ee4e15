import FlowCollector.Proofs.Isolation
import FlowCollector.Proofs.Netflow.Announced

/-!
# Nothing expires

There is no clock in the store. A template that was known is known after any datagram, as it was, unless the datagram
has a record that says otherwise: one that withdraws it, or one that defines it anew. Where that record must stand is
said of the bytes alone, by offsets and by the grammar of `Announcement.Written`, so nothing else can have been
taken for it, be it padding or what is left of a set behind an error.

`Store.Follows` is what one announcement may do to a store and, since it is transitive, what a whole datagram may do.
-/

set_option autoImplicit false

namespace FlowCollector

open Netflow

/-! ## Where announcements stand -/

namespace Netflow

/-- The sets of a message, by offsets. A message of IPFIX ends where its header says that it does, or where the
payload ends. -/
def Version.setsOf : Version → Bytes → Bytes
  | .v9, payload => payload.drop 20
  | .ipfix, payload => (payload.take (Bytes.toNat ((payload.drop 2).take 2))).drop 16

/-- A complete set of a message: complete sets stand in front of it in `setsOf`, and the message does not end before
it does. -/
def HasSet (version : Version) (payload : Bytes) (set : RawSet) : Prop :=
  ∃ front back, Complete front ∧ set.Fits ∧ version.setsOf payload = front ++ (set.encode ++ back)

theorem Body.sets_of_ofPayload {version : Version} {payload : Bytes} {body : Body}
    (h : ofPayload version payload = .ok body) : body.sets = version.setsOf payload := by
  cases version with
  | v9 =>
    cases read : ofV9.run payload with
    | error error =>
      simp only [ofPayload, read] at h
      cases h
    | ok found =>
      simp only [ofPayload, read] at h
      obtain rfl := Except.ok.inj h
      exact (eq_of_ofV9_ok read).2.2
  | ipfix =>
    cases read : ofIpfix.run payload with
    | error error =>
      simp only [ofPayload, read] at h
      cases h
    | ok found =>
      obtain ⟨⟨length, domain⟩, rest⟩ := found
      obtain ⟨-, -, rfl, rfl⟩ := eq_of_ofIpfix_ok read
      rw [ofPayload_ipfix read] at h
      show body.sets = (payload.take _).drop 16
      split at h
      · cases h
      · split at h
        · rename_i beyond
          obtain rfl := Except.ok.inj h
          rw [List.take_of_length_le (Nat.le_of_lt beyond)]
        · obtain rfl := Except.ok.inj h
          exact (List.drop_take ..).symm

/-- The complete sets of a message are those that `RawSet.split` cuts it into. -/
theorem hasSet_iff_mem_split {version : Version} {payload : Bytes} {set : RawSet} :
    HasSet version payload set ↔ set ∈ (RawSet.split (version.setsOf payload)).1 := by
  constructor
  · rintro ⟨_, back, ⟨front, fit, rfl⟩, fits, same⟩
    have all_fit : ∀ one ∈ front ++ [set], one.Fits := by
      intro one mem
      rcases List.mem_append.1 mem with before | own
      · exact fit one before
      · exact List.mem_singleton.1 own ▸ fits
    have cut := RawSet.split_written all_fit back
    rw [List.flatMap_append, List.flatMap_singleton, List.append_assoc, ← same] at cut
    rw [cut]
    simp
  · intro mem
    obtain ⟨rest, same, fit⟩ := RawSet.exists_split_append (version.setsOf payload)
    obtain ⟨front, back, cut⟩ := List.append_of_mem mem
    rw [cut] at same fit
    refine ⟨front.flatMap RawSet.encode, back.flatMap RawSet.encode ++ rest, ?_, fit set (by simp), ?_⟩
    · exact ⟨front, fun other own => fit other (List.mem_append_left _ own), rfl⟩
    · rw [same]
      simp

theorem hasSet_of_mem_split {version : Version} {payload : Bytes} {body : Body}
    (read : Body.ofPayload version payload = .ok body) {set : RawSet}
    (mem : set ∈ (RawSet.split body.sets).1) : HasSet version payload set := by
  rw [hasSet_iff_mem_split, ← Body.sets_of_ofPayload read]
  exact mem

end Netflow

/-- An announcement that some complete set of a message of sets holds (`HasSet`, `RawSet.Holds`). -/
def Packet.Announces (packet : Packet) (one : Announcement) : Prop :=
  ∃ version set, packet.version? = some version ∧ HasSet version packet.payload set
    ∧ set.Holds version one

/-! ## What announcements do -/

/-- Between two stores templates were only lost and changed as announcements said: a lost one was withdrawn, and a new
or changed one was defined. -/
structure Store.Follows (said : Announcement → Prop) (before after : Store) : Prop where
  lost : ∀ key, before.lookup? key ≠ none → after.lookup? key = none →
    ∃ id, (id = key.id ∨ id = 2 ∨ id = 3) ∧ said (.withdraw id)
  changed : ∀ key template, after.lookup? key = some template → before.lookup? key ≠ some template →
    said (.define key.id template)

namespace Store.Follows

variable {said : Announcement → Prop} {s t u : Store}

/-- A store that finds the same templates as before `Follows` anything. -/
theorem of_same (same : ∀ key, t.lookup? key = s.lookup? key) : Follows said s t := by
  constructor
  · intro key known gone
    exact absurd (same key ▸ gone) known
  · intro key template found other
    exact absurd (same key ▸ found) other

theorem refl (store : Store) : Follows said store store := of_same fun _ => rfl

theorem trans (first : Follows said s t) (second : Follows said t u) : Follows said s u := by
  constructor
  · intro key known gone
    by_cases between : t.lookup? key = none
    · exact first.lost key known between
    · exact second.lost key between gone
  · intro key template found other
    by_cases between : t.lookup? key = some template
    · exact first.changed key template between other
    · exact second.changed key template found between

theorem sequence {α : Type} {part : α → Store → Decoded × Store} {items : List α}
    (h : ∀ item ∈ items, ∀ store, Follows said store (part item store).2) (store : Store) :
    Follows said store (Decoded.sequence part items store).2 := by
  induction items generalizing store with
  | nil => exact refl store
  | cons item others ih =>
    have first := h item List.mem_cons_self store
    exact first.trans (ih (fun other mem => h other (List.mem_cons_of_mem item mem)) _)

/-- A store that has forgotten some templates, each of which was withdrawn, by its own number or by that of a template
set. -/
theorem of_forgotten (kept : ∀ key template, t.lookup? key = some template → s.lookup? key = some template)
    (withdrawn : ∀ key, s.lookup? key ≠ none → t.lookup? key = none →
      ∃ id, (id = key.id ∨ id = 2 ∨ id = 3) ∧ said (.withdraw id)) : Follows said s t := by
  refine ⟨withdrawn, ?_⟩
  intro key template found other
  exact absurd (kept key template found) other

end Store.Follows

open Store (Follows)

namespace Netflow.Session

variable (session : Session) {said : Announcement → Prop}

theorem follows_announce {one : Announcement} (h : said one) (store : Store) :
    Follows said store (session.announce one store).2 := by
  cases one with
  | define id template =>
    unfold announce
    dsimp only
    split
    · constructor
      · intro key known gone
        by_cases own : key = session.key id
        · rw [own, Store.lookup?_upsert_self] at gone
          cases gone
        · exact absurd (Store.lookup?_upsert_of_ne own store template ▸ gone) known
      · intro key found defined other
        by_cases own : key = session.key id
        · rw [own, Store.lookup?_upsert_self] at defined
          obtain rfl := Option.some.inj defined
          exact own ▸ h
        · exact absurd (Store.lookup?_upsert_of_ne own store template ▸ defined) other
    · exact .refl store
  | withdraw id =>
    -- The number of a template, or that of a kind of sets, and then the whole domain is forgotten.
    unfold announce
    dsimp only
    split
    · rename_i all
      apply Follows.of_forgotten
      · intro key template
        exact Store.lookup?_of_removeDomain
      · intro key _ _
        exact ⟨id, .inr all, h⟩
    · split
      · apply Follows.of_forgotten
        · intro key template
          exact Store.lookup?_of_remove
        · intro key known gone
          by_cases own : key = session.key id
          · exact ⟨id, .inl (own ▸ rfl), h⟩
          · exact absurd (Store.lookup?_remove_of_ne own store ▸ gone) known
      · exact .refl store
  | blank => exact .refl store

theorem follows_announceAll {all : List Announcement × Option DecodeError}
    (h : ∀ one ∈ all.1, said one) (store : Store) :
    Follows said store (session.announceAll all store).2 :=
  Follows.sequence (fun one mem => session.follows_announce (h one mem)) store

/-- Data records change rates, and no template, so a data set `Follows` anything. -/
theorem follows_dataSet (id : UInt16) (body : Bytes) (store : Store) :
    Follows said store (session.dataSet id body store).2 := by
  have record : ∀ template values store, Follows said store (session.record template values store).2 := by
    intro template values store
    unfold Session.record
    dsimp only
    split
    · split
      · exact .of_same fun _ => rfl
      · exact .refl store
    · exact .refl store
  unfold dataSet
  split
  · exact .refl store
  · unfold dataRecords
    split
    · exact .refl store
    · exact Follows.sequence (fun values _ => record _ values) store

theorem follows_set {raw : RawSet} (h : ∀ one, raw.Holds session.version one → said one) (store : Store) :
    Follows said store (session.set raw store).2 := by
  unfold set
  split
  · rename_i own
    apply session.follows_announceAll
    intro one mem
    exact h one (RawSet.holds_of_mem_ofTemplateSet own mem)
  · split
    · rename_i own
      apply session.follows_announceAll
      intro one mem
      exact h one (RawSet.holds_of_mem_ofOptionsTemplateSet own mem)
    · split
      · exact session.follows_dataSet raw.id raw.body store
      · exact .refl store

theorem follows_sets {body : Bytes}
    (h : ∀ raw ∈ (RawSet.split body).1, ∀ one, raw.Holds session.version one → said one) (store : Store) :
    Follows said store (session.sets body store).2 :=
  Follows.sequence (fun raw mem => session.follows_set (h raw mem)) store

end Netflow.Session

/-! ## Datagrams -/

theorem Packet.ofPayload_of_message? {packet : Packet} {session : Session} {body : Body}
    (h : packet.message? = some (session, body)) :
    packet.version? = some session.version
      ∧ Body.ofPayload session.version packet.payload = .ok body := by
  unfold message? at h
  split at h
  · cases h
  · rename_i version named
    split at h
    · cases h
    · rename_i found read
      obtain ⟨rfl, rfl⟩ := Prod.mk.inj (Option.some.inj h)
      exact ⟨named, read⟩

theorem Packet.follows_decode (packet : Packet) (store : Store) :
    Follows packet.Announces store (packet.decode store).2 := by
  rcases packet.decode_cases with ⟨session, body, message, decoded⟩ | ⟨-, -, decoded⟩ | ⟨-, -, decoded⟩
    | ⟨-, error, decoded⟩
  · -- Only a message of sets announces anything. The others leave the store alone.
    rw [decoded]
    obtain ⟨named, read⟩ := Packet.ofPayload_of_message? message
    apply session.follows_sets
    intro set mem one holds
    exact ⟨session.version, set, named, hasSet_of_mem_split read mem, holds⟩
  · rw [decoded]
    exact .refl store
  · rw [decoded]
    exact .refl store
  · rw [decoded]
    exact .refl store

/-- What is known of a template changes only when its exporter sends a message about its domain (`Packet.isFrom`). -/
theorem Packet.isFrom_of_changed {packet : Packet} {store : Store} {key : TemplateKey}
    (changed : (packet.decode store).2.lookup? key ≠ store.lookup? key) :
    packet.isFrom key.exporter key.domain := by
  by_contra apart
  exact changed ((Packet.spares_decode apart store).templates key.id)

theorem Store.Evolves.rate?_kept {start store : Store} {count : Nat} (h : start.Evolves count store)
    {key : SamplerKey} {rate : UInt64} (known : start.rate? key = some rate) :
    ∃ later, store.rate? key = some later ∧ (later = rate ∨ 0 < later) := by
  induction h with
  | refl => exact ⟨rate, known, .inl rfl⟩
  | upsert _ _ _ ih => exact ih
  | remove _ _ ih => exact ih
  | removeDomain _ _ _ ih => exact ih
  | @setRate _ t new _ other positive ih =>
    by_cases same : key = other
    · rw [same, rate?_setRate_self]
      exact ⟨new, rfl, .inr positive⟩
    · rw [rate?_setRate_of_ne same]
      exact ih

/-- A template that was known is lost in `Packet.decode` only to a withdrawal: a record without fields, in a complete
template set of a message of IPFIX from its exporter about its domain (`Packet.Announces`). What is known of a
template afterwards and was not known before is all that a record of the message defines. A rate is only ever
replaced, and never by zero. -/
theorem Packet.nothing_expires (packet : Packet) (store : Store) :
    let after := (packet.decode store).2
    (∀ key, store.lookup? key ≠ none → after.lookup? key = none →
        packet.version? = some .ipfix ∧ packet.exporter = key.exporter
          ∧ headerDomain? packet.payload = some key.domain
          ∧ ∃ set id, HasSet .ipfix packet.payload set ∧ (set.id = 2 ∨ set.id = 3)
            ∧ (id = key.id ∨ id = 2 ∨ id = 3) ∧ set.Holds .ipfix (.withdraw id))
      ∧ (∀ key template, after.lookup? key = some template → store.lookup? key ≠ some template →
        packet.exporter = key.exporter ∧ headerDomain? packet.payload = some key.domain
          ∧ ∃ version set, packet.version? = some version ∧ HasSet version packet.payload set
            ∧ set.Holds version (.define key.id template))
      ∧ ∀ key rate, store.rate? key = some rate →
        ∃ later, after.rate? key = some later ∧ (later = rate ∨ 0 < later) := by
  intro after
  have follows := packet.follows_decode store
  refine ⟨?lost, ?changed, ?rates⟩
  case lost =>
    intro key known gone
    have changed : after.lookup? key ≠ store.lookup? key := fun same => known (same ▸ gone)
    obtain ⟨-, exporter, domain⟩ := isFrom_iff.1 (Packet.isFrom_of_changed changed)
    obtain ⟨id, names, version, set, named, inside, holds⟩ := follows.lost key known gone
    -- The version and the set follow from the record, since no other set has one that withdraws.
    obtain ⟨earlier, front, record, rest, before, written, body⟩ := holds
    obtain ⟨rfl, own, -⟩ := written.of_withdraw
    exact ⟨named, exporter, domain, set, id, inside, own, names, earlier, front, record, rest, before, written,
      body⟩
  case changed =>
    intro key template found other
    have changed : after.lookup? key ≠ store.lookup? key := fun same => other (same ▸ found)
    obtain ⟨-, exporter, domain⟩ := isFrom_iff.1 (Packet.isFrom_of_changed changed)
    exact ⟨exporter, domain, follows.changed key template found other⟩
  case rates =>
    intro key rate known
    exact (packet.evolving_decode store).rate?_kept known

/-- Two templates and a rate are known. A message withdraws the first template and defines a third, with padding
behind. -/
theorem Packet.nothing_expires_but_withdrawn :
    let exporter : IpAddress := .v4 ⟨192, 0, 2, 1⟩
    let key (id : UInt16) : TemplateKey := ⟨exporter, 7, id⟩
    let template : Template := ⟨.data, [⟨8, 4, none⟩]⟩
    let store := ((Store.upsert ∅ (key 256) template).upsert (key 257) template).setRate ⟨exporter, 7, 5⟩ 512
    let header : Header := ⟨.ipfix, 7, List.replicate 8 0, rfl⟩
    let packet : Packet := ⟨.netflow, exporter, 0,
      header.message (RawSet.encode ⟨2, [1, 0, 0, 0] ++ [1, 2, 0, 1, 0, 8, 0, 4] ++ [0, 0, 0]⟩)⟩
    let after := (packet.decode store).2
    after.lookup? (key 256) = none ∧ after.lookup? (key 257) = some template
      ∧ after.lookup? (key 258) = some template
      ∧ (∃ set id, HasSet .ipfix packet.payload set ∧ (set.id = 2 ∨ set.id = 3)
        ∧ (id = 256 ∨ id = 2 ∨ id = 3) ∧ set.Holds .ipfix (.withdraw id))
      ∧ (∃ version set, packet.version? = some version ∧ HasSet version packet.payload set
        ∧ set.Holds version (.define 258 template))
      ∧ ∃ later, after.rate? ⟨exporter, 7, 5⟩ = some later ∧ (later = 512 ∨ 0 < later) := by
  intro exporter key template store header packet after
  obtain ⟨lost, changed, rates⟩ := packet.nothing_expires store
  have gone : after.lookup? (key 256) = none := by decide +kernel
  have kept : after.lookup? (key 257) = some template := by decide +kernel
  have found : after.lookup? (key 258) = some template := by decide +kernel
  obtain ⟨-, -, -, withdrawn⟩ := lost (key 256) (by decide +kernel) gone
  obtain ⟨-, -, defined⟩ := changed (key 258) template found (by decide +kernel)
  exact ⟨gone, kept, found, withdrawn, defined, rates _ _ (by decide +kernel)⟩

end FlowCollector
