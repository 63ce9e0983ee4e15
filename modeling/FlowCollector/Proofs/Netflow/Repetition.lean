import FlowCollector.Proofs.Netflow.TemplateSet
import FlowCollector.Proofs.Persistence
import FlowCollector.Proofs.Store.Requests

/-!
# Announcements repeated

A collector may start late or lose a datagram, and so an exporter announces its templates again and again. A message of
template sets asks the store for the same whenever it comes and whatever the store knows: its requests are told by its
bytes alone. The second time it finds its own requests answered, and so it comes to the same and changes nothing, even
where it defines a template, withdraws all of the domain and defines the template anew.

That is not so of a message with a data set, which asks for what its template says, and gives records that know when
they came.
-/

set_option autoImplicit false

namespace FlowCollector.Netflow

/-- A step that comes to the same whenever it is done and whatever the store knows, without a record, and changes the
store by the same list of `Request`s each time. -/
def Asking (step : UInt64 → Store → Decoded × Store) : Prop :=
  ∃ (decoded : Decoded) (requests : List Store.Request), decoded.records = []
    ∧ ∀ timeReceived store, step timeReceived store = (decoded, (store.answers requests).2)

namespace Asking

theorem const {decoded : Decoded} (silent : decoded.records = []) : Asking fun _ store => (decoded, store) :=
  ⟨decoded, [], silent, fun _ _ => rfl⟩

/-- Errors before and behind, that a step has no part in, leave it `Asking`. -/
theorem withErrors {step : UInt64 → Store → Decoded × Store} (h : Asking step) (before behind : List DecodeError) :
    Asking fun timeReceived store =>
      (.ofErrors before ++ ((step timeReceived store).1 ++ .ofErrors behind), (step timeReceived store).2) := by
  obtain ⟨decoded, requests, silent, asks⟩ := h
  refine ⟨.ofErrors before ++ (decoded ++ .ofErrors behind), requests, ?_, fun timeReceived store => ?_⟩
  · simp only [Decoded.records_append, Decoded.ofErrors, silent, List.append_nil]
  · simp only [asks]

theorem sequence {α : Type} {part : UInt64 → α → Store → Decoded × Store} {items : List α}
    (h : ∀ item ∈ items, Asking fun timeReceived => part timeReceived item) :
    Asking fun timeReceived => Decoded.sequence (part timeReceived) items := by
  induction items with
  | nil => exact const rfl
  | cons item others ih =>
    obtain ⟨first, asked, silent, asks⟩ := h item List.mem_cons_self
    obtain ⟨rest, more, silentRest, asksRest⟩ := ih fun other mem => h other (List.mem_cons_of_mem item mem)
    refine ⟨first ++ rest, asked ++ more, ?_, fun timeReceived store => ?_⟩
    · rw [Decoded.records_append, silent, silentRest, List.append_nil]
    · simp only [Decoded.sequence, asks, asksRest, Store.answers_append]

/-- What is asked for again is there already: the second run of an `Asking` step changes nothing. -/
theorem again {step : UInt64 → Store → Decoded × Store} (h : Asking step) (timeReceived later : UInt64)
    (store : Store) :
    (step timeReceived store).1.records = [] ∧ step later (step timeReceived store).2 = step timeReceived store := by
  obtain ⟨decoded, requests, silent, asks⟩ := h
  rw [asks, asks, store.answers_again requests]
  exact ⟨silent, rfl⟩

end Asking

section

variable {version : Version} {exporter : IpAddress} {domain : UInt32}

/-- A set whose number is below `leastDataSetId` announces something, or it is passed over; either is `Asking`. -/
theorem Session.asking_set {raw : RawSet} (reserved : ¬ leastDataSetId ≤ raw.id) :
    Asking fun timeReceived => (Session.mk version exporter domain timeReceived).set raw := by
  by_cases own : raw.id = version.templateSetId ∨ raw.id = version.optionsTemplateSetId
  · let said := Reader.many (Announcement.leastRecord version raw.id) (Announcement.readRecord version raw.id) raw.body
    let requests := said.1.filterMap (Session.mk version exporter domain 0).request?
    -- No request names a time, so those of a session at another time are the same.
    refine ⟨⟨[], said.2.toList, requests.countP Store.Request.isUpsert⟩, requests, rfl, fun timeReceived store => ?_⟩
    let session : Session := ⟨version, exporter, domain, timeReceived⟩
    have read : session.set raw store = session.announceAll said store := set_eq_announceAll own raw.body store
    exact read.trans (session.announceAll_eq_asking said store)
  · obtain ⟨noTemplates, noOptions⟩ := not_or.1 own
    suffices passed : ∀ (session : Session) (store : Store), session.version = version →
        session.set raw store = (.nothing, store) from
      ⟨.nothing, [], rfl, fun timeReceived store => passed ⟨version, exporter, domain, timeReceived⟩ store rfl⟩
    rintro session store rfl
    unfold set
    rw [if_neg noTemplates, if_neg noOptions, if_neg reserved]

theorem asking_decodeMessage {payload : Bytes}
    (announcing : ∀ set, HasSet version payload set → set.id < leastDataSetId) :
    Asking fun timeReceived => decodeMessage version exporter timeReceived payload := by
  unfold decodeMessage
  cases read : Body.ofPayload version payload with
  | error error => exact .const rfl
  | ok body =>
    have sets : ∀ raw ∈ (RawSet.split body.sets).1,
        Asking fun timeReceived => (Session.mk version exporter body.domain timeReceived).set raw := by
      intro raw mem
      exact Session.asking_set (UInt16.not_le.2 (announcing raw (hasSet_of_mem_split read mem)))
    exact (Asking.sequence sets).withErrors _ _

end

/-- A message without a complete data set gives no record. Decoded once more, at whatever time, it comes to the same
errors and the same number of templates, and leaves the store as the first one left it. What it announces may be
malformed, or defined and withdrawn several times over, and other sets may stand between. -/
theorem decode_again {version : Version} {payload : Bytes}
    (first : Bytes.toNat (payload.take 2) = version.number)
    (announcing : ∀ set, HasSet version payload set → set.id < leastDataSetId)
    (exporter : IpAddress) (timeReceived later : UInt64) (store : Store) :
    let once := decode exporter timeReceived payload store
    let twice := decode exporter later payload once.2
    once.1.records = [] ∧ twice.1 = once.1 ∧ twice.2 = once.2 := by
  suffices asking : Asking fun timeReceived => decode exporter timeReceived payload by
    obtain ⟨silent, same⟩ := asking.again timeReceived later store
    exact ⟨silent, congrArg Prod.fst same, congrArg Prod.snd same⟩
  by_cases enough : 2 ≤ payload.length
  · have message : (fun timeReceived => decode exporter timeReceived payload)
        = fun timeReceived => decodeMessage version exporter timeReceived payload :=
      funext fun timeReceived => funext fun store => decode_of_version enough first exporter timeReceived store
    rw [message]
    exact asking_decodeMessage announcing
  · have short : (Reader.u16 .header).run payload = .error _ := Reader.u16_short .header (Nat.not_le.1 enough)
    unfold decode
    rw [short]
    exact .const rfl

/-- A template is defined, lost to a withdrawal of the whole domain and defined anew, options are announced behind it,
and a template that is too long for its set ends the next set. A set of no kind stands between, and a data set that is
not complete at the end. -/
theorem decode_again_redefined :
    let exporter : IpAddress := .v4 ⟨192, 0, 2, 1⟩
    let key (id : UInt16) : TemplateKey := ⟨exporter, 7, id⟩
    let older : Template := ⟨.data, [⟨8, 4, none⟩]⟩
    let newer : Template := ⟨.data, [⟨12, 4, none⟩]⟩
    let store := ((Store.upsert ∅ (key 400) older).upsert ⟨exporter, 8, 400⟩ older).setRate ⟨exporter, 7, 5⟩ 512
    let header : Header := ⟨.ipfix, 7, List.replicate 8 0, rfl⟩
    let payload := header.message
      (RawSet.encode ⟨2, [1, 0, 0, 1, 0, 8, 0, 4] ++ [0, 2, 0, 0] ++ [1, 0, 0, 1, 0, 12, 0, 4]⟩
        ++ RawSet.encode ⟨3, [1, 1, 0, 2, 0, 1, 1, 46, 0, 1, 1, 49, 0, 4]⟩ ++ RawSet.encode ⟨5, [9, 9]⟩
        ++ RawSet.encode ⟨2, [1, 2, 0, 3, 0, 8, 0, 4]⟩ ++ [1, 44, 0, 99])
    let once := decode exporter 0 payload store
    Bytes.toNat (payload.take 2) = Version.ipfix.number
      ∧ (∀ set, HasSet .ipfix payload set → set.id < leastDataSetId)
      ∧ once.1 = ⟨[], [.malformedLength .template 12 4, .truncated .set 95 0], 3⟩
      ∧ once.2.lookup? (key 400) = none ∧ once.2.lookup? (key 256) = some newer
      ∧ once.2.lookup? ⟨exporter, 8, 400⟩ = some older
      ∧ (decode exporter 1800 payload once.2).1 = once.1 ∧ (decode exporter 1800 payload once.2).2 = once.2 := by
  intro exporter key older newer store header payload once
  have first : Bytes.toNat (payload.take 2) = Version.ipfix.number := by decide
  have announcing : ∀ set, HasSet .ipfix payload set → set.id < leastDataSetId := by
    have all : (RawSet.split (Version.ipfix.setsOf payload)).1.all (fun set => set.id < leastDataSetId) = true := by
      decide +kernel
    intro set inside
    exact of_decide_eq_true (List.all_eq_true.1 all set (hasSet_iff_mem_split.1 inside))
  obtain ⟨-, same, kept⟩ := decode_again first announcing exporter 0 1800 store
  exact ⟨first, announcing, by decide +kernel, by decide +kernel, by decide +kernel, by decide +kernel, same, kept⟩

end FlowCollector.Netflow
