import FlowCollector.Proofs.Netflow.Malformed
import FlowCollector.Template.Request

/-!
# What a template set does

A template set falls into records in one way, up to padding or to something that is no record. Each record asks the
store for one thing or for nothing, and the set does what its records ask for, in order. What is no record asks for
nothing: it is not half a template, and the store is as if the set had ended in front of it.
-/

set_option autoImplicit false

namespace FlowCollector

namespace Store

/-- True of a request to remember a template, the only kind that `templatesUpserted` counts. -/
def Request.isUpsert : Request → Bool
  | .upsert .. => true
  | _ => false

theorem answers_append (store : Store) (front back : List Request) :
    (store.answers (front ++ back)).2 = ((store.answers front).2.answers back).2 := by
  induction front generalizing store with
  | nil => rfl
  | cons request others ih => exact ih (store.answer request).2

end Store

namespace Netflow

/-- The records of a set of this version and number, each `Written` there, and what ends them: padding, or what is
`Malformed`. -/
abbrev Announcement.Parts (version : Version) (set : UInt16) :
    Bytes → List Announcement → Option DecodeError → Prop :=
  Reader.Run (leastRecord version set) (Written version set) (Malformed version set)

namespace Session

/-- What an announcement asks the store for: nothing, if its number is of no use. `Session.announce` does just
that. -/
def request? (session : Session) : Announcement → Option Store.Request
  | .define id template =>
    if leastDataSetId ≤ id then some (.upsert (session.key id) template) else none
  | .withdraw id =>
    if id = Version.ipfix.templateSetId ∨ id = Version.ipfix.optionsTemplateSetId then
      some (.removeDomain session.exporter session.domain)
    else if leastDataSetId ≤ id then some (.remove (session.key id))
    else none
  | .blank => none

variable (session : Session)

/-- What comes of requests: nothing but the number of templates that were announced, those that are
`Request.isUpsert`. -/
def asking (requests : List Store.Request) (store : Store) : Decoded × Store :=
  (⟨[], [], requests.countP Store.Request.isUpsert⟩, (store.answers requests).2)

theorem announce_eq_asking (said : Announcement) (store : Store) :
    session.announce said store = asking (session.request? said).toList store := by
  cases said with
  | define id template =>
    simp only [announce, request?]
    split <;> rfl
  | withdraw id =>
    simp only [announce, request?]
    split
    · rfl
    · split <;> rfl
  | blank => rfl

theorem asking_append (front back : List Store.Request) (store : Store) :
    asking (front ++ back) store
      = ((asking front store).1 ++ (asking back (asking front store).2).1, (asking back (asking front store).2).2) := by
  refine Prod.ext (Decoded.ext rfl rfl ?_) (store.answers_append front back)
  exact List.countP_append

theorem sequence_announce (said : List Announcement) (store : Store) :
    Decoded.sequence session.announce said store = asking (said.filterMap session.request?) store := by
  induction said generalizing store with
  | nil => rfl
  | cons first others ih =>
    have step : (first :: others).filterMap session.request?
        = (session.request? first).toList ++ others.filterMap session.request? := by
      rw [List.filterMap_cons]
      cases session.request? first <;> rfl
    rw [step, asking_append, Decoded.sequence, announce_eq_asking]
    dsimp only
    rw [ih]

theorem announceAll_eq_asking (said : List Announcement × Option DecodeError) (store : Store) :
    session.announceAll said store
      = (⟨[], said.2.toList, (said.1.filterMap session.request?).countP Store.Request.isUpsert⟩,
        (store.answers (said.1.filterMap session.request?)).2) := by
  unfold announceAll
  rw [sequence_announce]
  exact Prod.ext (Decoded.ext rfl rfl (Nat.add_zero _)) rfl

variable {session} {set : UInt16}

theorem set_eq_announceAll (own : set = session.version.templateSetId ∨ set = session.version.optionsTemplateSetId)
    (body : Bytes) (store : Store) :
    session.set ⟨set, body⟩ store
      = session.announceAll (Reader.many (Announcement.leastRecord session.version set)
          (Announcement.readRecord session.version set) body) store := by
  obtain ⟨version, exporter, domain, timeReceived⟩ := session
  rcases own with rfl | rfl
  · cases version <;> rfl
  · cases version <;> rfl

theorem set_eq_asking (own : set = session.version.templateSetId ∨ set = session.version.optionsTemplateSetId)
    {body : Bytes} {said : List Announcement} {ending : Option DecodeError}
    (parts : Announcement.Parts session.version set body said ending) (store : Store) :
    session.set ⟨set, body⟩ store
      = (⟨[], ending.toList, (said.filterMap session.request?).countP Store.Request.isUpsert⟩,
        (store.answers (said.filterMap session.request?)).2) := by
  have read := (Announcement.exact_readRecord own).many_of_run (Announcement.leastRecord_pos _ _) parts
  rw [set_eq_announceAll own, read, announceAll_eq_asking]

/-- A template set falls into `Announcement.Parts`, records and what ends them, in one way. `Session.set` asks the
store for what the records say (`request?`), in order, and counted are those that are to be remembered. What is no
record costs one error, and all else is as if the set had ended in front of it. -/
theorem exists_parts_set_eq
    (own : set = session.version.templateSetId ∨ set = session.version.optionsTemplateSetId)
    (body : Bytes) (store : Store) :
    ∃ said ending,
      Announcement.Parts session.version set body said ending
      ∧ (∀ others last, Announcement.Parts session.version set body others last → others = said ∧ last = ending)
      ∧ session.set ⟨set, body⟩ store
          = (⟨[], ending.toList, (said.filterMap session.request?).countP Store.Request.isUpsert⟩,
            (store.answers (said.filterMap session.request?)).2)
      ∧ ∀ error, ending = some error → ∃ front rest,
          body = front ++ rest ∧ Announcement.Malformed session.version set rest error
          ∧ session.set ⟨set, front⟩ store
              = (⟨[], [], (said.filterMap session.request?).countP Store.Request.isUpsert⟩,
                (session.set ⟨set, body⟩ store).2) := by
  have exact_here := Announcement.exact_readRecord own
  have positive := Announcement.leastRecord_pos session.version set
  obtain ⟨said, ending, parts⟩ := exact_here.exists_run positive body
  refine ⟨said, ending, parts, fun others last => exact_here.run_unique positive parts,
    set_eq_asking own parts store, ?_⟩
  rintro error rfl
  obtain ⟨front, rest, same, malformed, whole⟩ := parts.exists_of_wrong positive
  refine ⟨front, rest, same, malformed, ?_⟩
  rw [set_eq_asking own whole, set_eq_asking own parts]
  rfl

/-- A set that withdraws a template, announces another, and is cut off inside the enterprise of a third. The third was
known in an older form, and stays. -/
theorem exists_parts_set_eq_cut_off :
    let session : Session := ⟨.ipfix, .v4 ⟨192, 0, 2, 1⟩, 7, 0⟩
    let older : Template := ⟨.data, [⟨8, 4, none⟩]⟩
    let store := ((∅ : Store).upsert (session.key 257) older).upsert (session.key 300) older
    let body := (Bytes.ofNat 2 300 ++ Bytes.ofNat 2 0)
      ++ ((Bytes.ofNat 2 256 ++ (Bytes.ofNat 2 1 ++ FieldSpec.encode ⟨12, 4, none⟩))
        ++ (Bytes.ofNat 2 257 ++ (Bytes.ofNat 2 2 ++ (FieldSpec.encode ⟨8, 4, none⟩
          ++ (Bytes.ofNat 2 0x8001 ++ (Bytes.ofNat 2 4 ++ [0, 0]))))))
    (2 : UInt16) = session.version.templateSetId
      ∧ (session.set ⟨2, body⟩ store).1 = ⟨[], [.truncated .templateField 4 2], 1⟩
      ∧ (session.set ⟨2, body⟩ store).2
          = (store.remove (session.key 300)).upsert (session.key 256) ⟨.data, [⟨12, 4, none⟩]⟩
      ∧ (session.set ⟨2, body⟩ store).2.lookup? (session.key 257) = some older := by
  intro session older store body
  have own : (2 : UInt16) = session.version.templateSetId := rfl
  obtain ⟨said, ending, -, unique, effect, -⟩ := exists_parts_set_eq (.inl own) body store
  have cutOff : Announcement.FieldMalformed .ipfix (Bytes.ofNat 2 0x8001 ++ (Bytes.ofNat 2 4 ++ [0, 0]))
      (.truncated .templateField 4 2) :=
    @Announcement.FieldMalformed.enterpriseCutOff 0x8001 4 [0, 0] (by decide) (by decide)
  have fields : Announcement.FieldsMalformed .ipfix 2
      ([(⟨8, 4, none⟩ : FieldSpec)].flatMap FieldSpec.encode ++ _) _ :=
    .field (by decide) (by decide) (by decide) cutOff
  have template : Announcement.Written .ipfix 2 (.define 256 ⟨.data, [⟨12, 4, none⟩]⟩) _ :=
    .data (by simp) (by decide) (by decide)
  have parts : Announcement.Parts .ipfix 2 body [.withdraw 300, .define 256 ⟨.data, [⟨12, 4, none⟩]⟩]
      (some (.truncated .templateField 4 2)) :=
    .item (.withdraw 300 (.inl rfl)) (.item template
      (.wrong (by decide) (@Announcement.Malformed.fields _ 257 2 _ _ (by decide) fields)))
  obtain ⟨rfl, rfl⟩ := unique _ _ parts
  rw [effect]
  exact ⟨own, by decide, by decide, by decide⟩

end Session

end Netflow

end FlowCollector
