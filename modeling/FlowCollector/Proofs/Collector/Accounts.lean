import FlowCollector.Proofs.Collector.Course
import FlowCollector.Proofs.Collector.Delivery
import FlowCollector.Proofs.Monitor
import FlowCollector.Report

/-!
# Accounts

A collector counts what it does as it does it, and keeps no list of what it did. A `Ledger` keeps the list and does
not count. `Ledger.Accounted` says that the counts are those of the list, all along and in every part: what came in by
what was taken and dropped, what was decoded by what came of each datagram. No count is ever taken back, not
even when a stop or a consumer that goes loses what was counted.
-/

set_option autoImplicit false

namespace FlowCollector

/-! ## Sums -/

section Sums

variable {α β : Type}

theorem sumOf_map (size : β → Nat) (change : α → β) (items : List α) :
    sumOf size (items.map change) = sumOf (fun item => size (change item)) items := by
  induction items with
  | nil => rfl
  | cons first rest ih => rw [List.map_cons, sumOf, sumOf, ih]

theorem sumOf_ite_range (place count : Nat) :
    sumOf (fun index => if place = index then 1 else 0) (List.range count)
      = if place < count then 1 else 0 := by
  induction count with
  | zero => rfl
  | succ count ih =>
    rw [List.range_succ, sumOf_append, ih, sumOf_singleton]
    split <;> split <;> split <;> omega

/-- Counted place by place, each item is counted once: with `Accounted.entered` the sum over all inputs is that of all
datagrams. -/
theorem sumOf_countP_range {items : List (Nat × β)} {count : Nat}
    (inside : ∀ item ∈ items, item.1 < count) :
    sumOf (fun index => items.countP fun item => item.1 == index) (List.range count) = items.length := by
  induction items with
  | nil =>
    simp only [List.countP_nil]
    induction List.range count with
    | nil => rfl
    | cons _ _ ih => exact (Nat.zero_add _).trans ih
  | cons first rest ih =>
    have later := ih fun item there => inside item (List.mem_cons_of_mem _ there)
    have here := inside first List.mem_cons_self
    simp only [List.countP_cons, beq_iff_eq, sumOf_add, later, sumOf_ite_range, if_pos here,
      List.length_cons]

theorem length_flatten_mapIdx {lists : Nat → α → List β} {size : α → Nat}
    (lengths : ∀ index item, (lists index item).length = size item) (items : List α) :
    (items.mapIdx lists).flatten.length = sumOf size items := by
  induction items generalizing lists with
  | nil => rfl
  | cons first rest ih =>
    rw [List.mapIdx_cons, List.flatten_cons, List.length_append, lengths, sumOf,
      ih fun index item => lengths (index + 1) item]

theorem length_flatten_map (lists : α → List β) (items : List α) :
    (items.map lists).flatten.length = sumOf (fun item => (lists item).length) items := by
  induction items with
  | nil => rfl
  | cons first rest ih => rw [List.map_cons, List.flatten_cons, List.length_append, sumOf, ih]

end Sums

theorem Workshop.length_queued (workshop : Workshop) :
    workshop.queued.length = sumOf (fun input => input.intake.length) workshop.inputs := by
  apply length_flatten_mapIdx
  intro index input
  exact List.length_map _

/-- True of the heads under which `Monitor.addDecoded` counts, and not of the two that `Intake.offer` counts under. -/
def Head.ofDecoding : Head → Bool
  | received _ => false
  | dropped _ => false
  | _ => true

/-- What a datagram added to the count of a head when it was decoded, by the `Decoded.amount` of what came of it and
its exporter. -/
def Decoding.amount (head : Head) (decoding : Decoding) : Nat :=
  decoding.outcome.amount decoding.datagram.sender.ip head

namespace Monitor

/-- What was counted of decoding is what was decoded: for every `Head.ofDecoding` the count is the sum of
`Decoding.amount`, and there are as many decode times as datagrams. -/
structure Records (decoded : List Decoding) (monitor : Monitor) : Prop where
  consistent : monitor.Consistent
  counted : ∀ head : Head, head.ofDecoding = true →
    monitor.stats.count head = sumOf (Decoding.amount head) decoded
  missing : Tally.total monitor.stats.missingTemplates
    = sumOf (fun decoding => decoding.outcome.missingTemplates) decoded
  samples : Tally.total monitor.meters.decodeSamples = decoded.length

namespace Records

variable {decoded : List Decoding} {monitor : Monitor}

theorem start (inputs : Nat) : (Monitor.start inputs).Records [] :=
  ⟨.start inputs, fun head _ => Stats.count_start inputs head, rfl, rfl⟩

theorem setOutgoing (h : monitor.Records decoded) (size : Nat) : (monitor.setOutgoing size).Records decoded :=
  ⟨h.consistent.setOutgoing size, h.counted, h.missing, h.samples⟩

theorem addIncoming (h : monitor.Records decoded) {counter : Counter}
    (incoming : counter.head.ofDecoding = false) (amount : Nat) :
    (monitor.add counter amount).Records decoded := by
  refine ⟨h.consistent.add counter amount, ?_, ?_, ?_⟩
  · intro head decoding
    have apart : counter.head ≠ head := by
      rintro rfl
      rw [incoming] at decoding
      cases decoding
    by_cases known : monitor.stats.has counter = true
    · rw [count_add known, if_neg apart]
      exact h.counted head decoding
    · rw [add, if_neg known]
      exact h.counted head decoding
  · rw [total_missingTemplates_add]
    cases counter with
    | missingTemplates _ => cases incoming
    | _ => exact h.missing
  · rw [decodeSamples_add]
    exact h.samples

theorem addDecoded (h : monitor.Records decoded) (protocol : Protocol) (decoding : Decoding) :
    (monitor.addDecoded protocol decoding.datagram.sender.ip decoding.outcome).Records
      (decoded ++ [decoding]) := by
  refine ⟨h.consistent.addDecoded decoding.outcome, ?_, ?_, ?_⟩
  · intro head ofDecoding
    rw [count_addDecoded, h.counted head ofDecoding, sumOf_append]
    rfl
  · rw [total_missingTemplates_addDecoded, h.missing, sumOf_append]
    rfl
  · rw [total_decodeSamples_addDecoded, h.samples, List.length_append]
    rfl

end Records

end Monitor

namespace Ledger

/-- What was counted is what was done: `Monitor.Records` for what workers do, and what came in at each input for the
listeners. It holds of a new collector, and `kept_accounted` carries it through every move. -/
structure Accounted (setup : Setup) (ledger : Ledger) : Prop where
  same : ledger.collector.setup = setup
  known : ledger.collector.workshop.inputs.length ≤ setup.inputs.length
  listed : ledger.collector.stats.inputs.length = setup.inputs.length
  records : ledger.collector.workshop.monitor.Records ledger.decoded
  /-- What came in at an input was dropped, or else it is among the `accepted` of the ledger. -/
  entered : ∀ input, ledger.collector.stats.received input
    = ledger.collector.stats.dropped input + ledger.accepted.countP fun arrival => arrival.1 == input
  inside : ∀ arrival ∈ ledger.accepted, arrival.1 < setup.inputs.length

variable {setup : Setup} {ledger : Ledger}

theorem accounted_start {collector : Collector} (h : Collector.build setup = .ok collector) :
    (start collector).Accounted setup := by
  obtain ⟨-, rfl⟩ := Collector.build_eq_ok h
  refine ⟨rfl, Nat.zero_le _, List.length_replicate, .start _, ?_, nofun⟩
  intro input
  have received := Stats.count_start setup.inputs.length (.received input)
  have dropped := Stats.count_start setup.inputs.length (.dropped input)
  exact received.trans dropped.symm

namespace Accounted

/-- Where nothing comes in and nothing is decoded, the accounts stay. Setting the gauge of the outgoing queue
(`Monitor.setOutgoing`) counts nothing. -/
theorem frame (accounted : ledger.Accounted setup) {after : Ledger}
    (same : after.collector.setup = ledger.collector.setup)
    (known : after.collector.workshop.inputs.length ≤ setup.inputs.length)
    (monitor : after.collector.workshop.monitor = ledger.collector.workshop.monitor
      ∨ ∃ size, after.collector.workshop.monitor = ledger.collector.workshop.monitor.setOutgoing size)
    (accepted : after.accepted = ledger.accepted) (decoded : after.decoded = ledger.decoded) :
    after.Accounted setup := by
  have stats : after.collector.stats = ledger.collector.stats := by
    unfold Collector.stats
    rcases monitor with monitor | ⟨_, monitor⟩ <;> rw [monitor]
    rfl
  refine ⟨same.trans accounted.same, known, ?_, ?_, ?_, ?_⟩
  · rw [stats]
    exact accounted.listed
  · rw [decoded]
    rcases monitor with monitor | ⟨size, monitor⟩ <;> rw [monitor]
    · exact accounted.records
    · exact accounted.records.setOutgoing size
  · rw [stats, accepted]
    exact accounted.entered
  · rw [accepted]
    exact accounted.inside

theorem has_received (accounted : ledger.Accounted setup) {index : Nat} {input : Input}
    (found : ledger.collector.workshop.inputs[index]? = some input) :
    index < setup.inputs.length
      ∧ ledger.collector.workshop.monitor.stats.has (.received index) = true := by
  have place := Nat.lt_of_lt_of_le (List.getElem?_eq_some_iff.1 found).1 accounted.known
  refine ⟨place, decide_eq_true ?_⟩
  rw [← accounted.listed] at place
  exact place

theorem arrive (accounted : ledger.Accounted setup) (index : Nat) (datagram : Datagram) :
    (ledger.step (.arrive index datagram)).Accounted setup := by
  rcases ledger.collector.arrive_outcome index datagram with
    ⟨input, -, found, ⟨-, arrived⟩ | ⟨-, arrived⟩⟩ | ⟨answer, notTaken, -, arrived⟩
  · obtain ⟨place, there⟩ := accounted.has_received found
    obtain ⟨same, known, listed, records, entered, inside⟩ := accounted
    simp only [step, arrived]
    refine ⟨same, ?_, ?_, records.addIncoming rfl 1, ?_, ?_⟩
    · rwa [List.length_set]
    · exact (Monitor.length_inputs_add _ _ _).trans listed
    · intro other
      have received := Monitor.count_add there 1 (.received other)
      have dropped := Monitor.count_add there 1 (.dropped other)
      have before := entered other
      simp only [Stats.count, Counter.head, Head.received.injEq, reduceCtorEq, if_false] at received dropped
      simp only [Collector.stats, List.countP_append, List.countP_singleton, beq_iff_eq] at before ⊢
      omega
    · intro arrival there
      rcases List.mem_append.1 there with earlier | now
      · exact inside arrival earlier
      · rw [List.mem_singleton.1 now]
        exact place
  · obtain ⟨place, there⟩ := accounted.has_received found
    obtain ⟨same, known, listed, records, entered, inside⟩ := accounted
    -- The datagram that is dropped was counted as received just before.
    have still : (ledger.collector.workshop.monitor.add (.received index) 1).stats.has (.dropped index)
        = true := by
      rw [Stats.has, Monitor.length_inputs_add]
      exact decide_eq_true (listed ▸ place)
    simp only [step, arrived]
    refine ⟨same, known, ?_, (records.addIncoming rfl 1).addIncoming rfl 1, ?_, inside⟩
    · exact (Monitor.length_inputs_add _ _ _).trans ((Monitor.length_inputs_add _ _ _).trans listed)
    · intro other
      have received := Monitor.count_add still 1 (.received other)
      have dropped := Monitor.count_add still 1 (.dropped other)
      rw [Monitor.count_add there] at received dropped
      have before := entered other
      simp only [Stats.count, Counter.head, Head.received.injEq, Head.dropped.injEq, reduceCtorEq,
        if_false] at received dropped
      simp only [Collector.stats] at before ⊢
      omega
  · simp only [step, arrived]
    cases answer with
    | taken => exact absurd rfl notTaken
    | _ => exact accounted

theorem act (accounted : ledger.Accounted setup) (act : Act) :
    (ledger.step (.act act)).Accounted setup := by
  cases performed : ledger.collector.workshop.perform? act with
  | none =>
    simp only [Ledger.step, performed]
    exact accounted
  | some workshop =>
    have known : workshop.inputs.length ≤ setup.inputs.length := by
      rw [(Workshop.perform_frame performed).2.2]
      exact accounted.known
    rw [step_act performed]
    -- A worker counts when it decodes, and then the ledger has the same datagram written down.
    rcases Workshop.monitor_perform performed with ⟨decoding, protocol, decodes, monitor⟩ | ⟨decodes, monitor⟩
    · obtain ⟨same, -, listed, records, entered, inside⟩ := accounted
      rw [decodes]
      have counts : ∀ head, workshop.monitor.stats.count head
          = ledger.collector.workshop.monitor.stats.count head + decoding.amount head := by
        intro head
        rw [monitor, Monitor.count_addDecoded]
        rfl
      refine ⟨same, known, ?_, ?_, ?_, inside⟩
      · simp only [Collector.stats, monitor, Monitor.length_inputs_addDecoded]
        exact listed
      · rw [monitor]
        exact records.addDecoded protocol decoding
      · intro input
        have received := counts (.received input)
        have dropped := counts (.dropped input)
        have before := entered input
        simp only [Stats.count, Decoding.amount, Decoded.amount, Nat.add_zero] at received dropped
        simp only [Collector.stats, received, dropped] at before ⊢
        exact before
    · rw [decodes, Option.toList_none, List.append_nil]
      exact accounted.frame rfl known monitor rfl rfl

theorem dropped_le (accounted : ledger.Accounted setup) (input : Nat) :
    ledger.collector.stats.dropped input ≤ ledger.collector.stats.received input := by
  rw [accounted.entered]
  exact Nat.le_add_right _ _

/-- What came in and was not dropped is still there, unless it was decoded: `Custody` says so datagram by datagram,
and here it is said in counts. -/
theorem in_custody (accounted : ledger.Accounted setup) (custody : ledger.Custody) :
    sumOf (fun input => ledger.collector.stats.received input - ledger.collector.stats.dropped input)
        (List.range setup.inputs.length)
      = Tally.total ledger.collector.workshop.monitor.meters.decodeSamples
        + sumOf (fun input => input.intake.length) ledger.collector.workshop.inputs
        + ledger.collector.workshop.grasped.length := by
  have taken : ∀ input, ledger.collector.stats.received input - ledger.collector.stats.dropped input
      = ledger.accepted.countP fun arrival => arrival.1 == input := by
    intro input
    rw [accounted.entered, Nat.add_sub_cancel_left]
  have places := custody.length_eq
  simp only [List.length_append, List.length_map, Workshop.length_queued] at places
  simp only [taken, sumOf_countP_range accounted.inside, accounted.records.samples, places, Nat.add_assoc]

end Accounted

/-- Whatever happens, what was counted is what was done. Stopping and the consumer's going lose records and datagrams,
but they take back no count. -/
theorem kept_accounted (setup : Setup) : Kept (Accounted setup) where
  step := by
    intro ledger accounted event
    cases event with
    | start network =>
      cases started : ledger.collector.start network with
      | error _ =>
        simp only [step, started]
        exact accounted
      | ok _ =>
        obtain ⟨-, _, rfl⟩ := Collector.start_eq_ok started
        simp only [step, started]
        refine accounted.frame rfl ?_ (.inl rfl) rfl rfl
        rw [List.length_map, accounted.same]
    | arrive index datagram => exact accounted.arrive index datagram
    | inject record =>
      rcases ledger.collector.inject_cases record with ⟨-, -, injected⟩ | ⟨answer, refused, injected⟩
      · simp only [step, injected]
        exact accounted.frame rfl accounted.known (.inl rfl) rfl rfl
      · simp only [step, injected]
        cases answer with
        | accepted => exact absurd rfl refused
        | _ => exact accounted
    | receive =>
      rcases ledger.collector.receive_cases with ⟨_, _, -, received⟩ | ⟨answer, nothing, received⟩
      · simp only [step, received]
        exact accounted.frame rfl accounted.known (.inl rfl) rfl rfl
      · simp only [step, received]
        cases answer with
        | record record => exact absurd rfl (nothing record)
        | _ => exact accounted
    | act act => exact accounted.act act
  stop := by
    intro ledger accounted resting
    rcases Collector.stop_cases resting with ⟨-, stopped⟩ | ⟨-, stopped⟩ | ⟨-, stopped⟩ <;> rw [stopped]
    · exact accounted
    · exact accounted.frame rfl accounted.known (.inl rfl) rfl rfl
    · exact accounted.frame rfl (Nat.zero_le _) (.inr ⟨0, rfl⟩) rfl rfl
  dropReceiver := by
    intro ledger accounted
    refine accounted.frame rfl ?_ (.inl rfl) rfl rfl
    simp only [Collector.dropReceiver, Workshop.abandonInputs, List.length_mapIdx]
    exact accounted.known

end Ledger

/-! ## Reports -/

/-- Named by the text of their addresses, exporters stay apart, since no two addresses have one text. -/
theorem Stats.nodup_missingTemplates_snapshot (stats : Stats) :
    (stats.snapshot.missingTemplates.map (·.1)).Nodup := by
  rw [snapshot, List.map_map, List.Nodup, List.pairwise_map]
  apply stats.missingTemplates.rising.imp
  intro entry other less same
  rw [IpAddress.text_injective same] at less
  exact Nat.lt_irrefl _ less

theorem Stats.sumOf_missingTemplates_snapshot (stats : Stats) :
    sumOf (·.2) stats.snapshot.missingTemplates = Tally.total stats.missingTemplates :=
  sumOf_map _ _ _

/-- The accounts of a collector of a `Setup` that passes, after any course of moves. What the meters have published
under a series is what the `Stats` say, and a series is there if and only if it counts something; records are
published by `Protocol`, and the statistics have their sum. What the statistics say of decoding is the sum of
`Decoding.amount` over what was decoded, and what exporters miss, named by address or by text, is the number of errors
for an unknown template. Until a stop, and while the consumer stays, the datagrams that came in and were not dropped
are those that were decoded, those that wait in an `Intake`, and those that workers have in their hands, of which
there are none once the workshop is `Resting`. -/
theorem collector_accounts {setup : Setup} {collector : Collector}
    (accepted : Collector.build setup = .ok collector) (moves : List Move) :
    let ledger := (Ledger.start collector).course moves
    let shop := ledger.collector.workshop
    let stats := ledger.collector.stats
    let records (protocol : Protocol) := shop.monitor.meters.published? (Counter.recordsDecoded protocol).series
    (∀ counter : Counter, counter.head ≠ .recordsDecoded →
        shop.monitor.meters.published? counter.series
          = if stats.count counter.head = 0 then none else some (stats.count counter.head))
      ∧ stats.recordsDecoded = sumOf (fun protocol => (records protocol).getD 0) Protocol.all
      ∧ (∀ protocol, records protocol ≠ some 0)
      ∧ (stats.recordsDecoded = 0 ↔ ∀ protocol, records protocol = none)
      ∧ stats.recordsDecoded = sumOf (fun decoding => decoding.outcome.records.length) ledger.decoded
      ∧ stats.templatesUpserted
        = sumOf (fun decoding => decoding.outcome.templatesUpserted) ledger.decoded
      ∧ (∀ reason, Tally.count stats.decodeErrors reason
          = sumOf (fun decoding => decoding.outcome.errors.countP (·.reason == reason)) ledger.decoded)
      ∧ Tally.total stats.missingTemplates = Tally.count stats.decodeErrors .unknownTemplate
      ∧ (stats.snapshot.missingTemplates.map (·.1)).Nodup
      ∧ sumOf (·.2) stats.snapshot.missingTemplates = Tally.count stats.decodeErrors .unknownTemplate
      ∧ (.stop ∉ moves → .dropReceiver ∉ moves →
          (∀ input, stats.dropped input ≤ stats.received input)
          ∧ sumOf (fun input => stats.received input - stats.dropped input) (List.range setup.inputs.length)
            = Tally.total shop.monitor.meters.decodeSamples
              + sumOf (fun input => input.intake.length) shop.inputs + shop.grasped.length
          ∧ (shop.Resting → shop.grasped = [])) := by
  intro ledger shop stats records
  have accounted : ledger.Accounted setup :=
    (Ledger.kept_accounted setup).course (Ledger.accounted_start accepted) moves
  obtain ⟨consistent, counted, missing, -⟩ := accounted.records
  have unknown : Tally.total stats.missingTemplates = Tally.count stats.decodeErrors .unknownTemplate :=
    missing.trans (counted (.decodeErrors .unknownTemplate) rfl).symm
  refine ⟨?_, consistent.recordsDecoded_eq, fun protocol => consistent.published?_ne_zero _,
    consistent.recordsDecoded_eq_zero_iff, counted .recordsDecoded rfl, counted .templatesUpserted rfl,
    fun reason => counted (.decodeErrors reason) rfl, unknown, stats.nodup_missingTemplates_snapshot,
    stats.sumOf_missingTemplates_snapshot.trans unknown, ?_⟩
  · intro counter apart
    rw [consistent.published?, consistent.alike counter apart]
    rfl
  · intro running stays
    obtain ⟨events, ran⟩ := (Ledger.start collector).course_eq_run running stays
    have ran : ledger = (Ledger.start collector).run events := ran
    have sound : ledger.Sound := ran ▸ (Ledger.sound_start accepted).run events
    refine ⟨accounted.dropped_le, accounted.in_custody sound.custody, ?_⟩
    intro resting
    rw [Workshop.grasped, Workshop.hands_of_act_none (Workshop.act_eq_none_iff.2 resting)]
    rfl

/-- A queue of one place: of three datagrams the second is dropped, the first asks for a template that nobody announced,
and the third has two records. The exporter's series says one, and no series says that no template was announced. -/
theorem collector_accounts_unknown_template :
    let setup : Setup := ⟨[⟨.netflow, .v4 ⟨127, 0, 0, 1⟩ 0, 1, 1, 1⟩], 4, 1⟩
    let sender : SocketAddress := .v4 ⟨192, 0, 2, 1⟩ 9995
    let orphan : Datagram :=
      ⟨sender, 0, [0, 9, 0, 1] ++ List.replicate 16 0 ++ [1, 0, 0, 8, 0, 0, 0, 0]⟩
    let double : Datagram := ⟨sender, 0, [0, 5, 0, 2] ++ List.replicate 116 0⟩
    let moves : List Move := [.event (.start fun _ address => .ok address), .event (.arrive 0 orphan),
      .event (.arrive 0 double), .event (.act (.take 0)), .event (.act (.work 0)),
      .event (.act (.work 0)), .event (.arrive 0 double), .event (.act (.take 0)),
      .event (.act (.work 0))]
    let ledger := (Ledger.start (.create setup)).course moves
    let stats := ledger.collector.stats
    let meters := ledger.collector.workshop.monitor.meters
    Collector.build setup = .ok (.create setup) ∧ .stop ∉ moves ∧ .dropReceiver ∉ moves
      ∧ (stats.received 0, stats.dropped 0, ledger.decoded.length) = (3, 1, 2)
      ∧ meters.published? (Counter.missingTemplates sender.ip).series = some 1
      ∧ meters.published? Counter.templatesUpserted.series = none
      ∧ stats.recordsDecoded = 2
      ∧ sumOf (fun input => stats.received input - stats.dropped input) (List.range 1)
        = Tally.total meters.decodeSamples
          + sumOf (fun input => input.intake.length) ledger.collector.workshop.inputs
          + ledger.collector.workshop.grasped.length := by
  intro setup sender orphan double moves ledger stats meters
  have built : Collector.build setup = .ok (.create setup) := rfl
  have running : Move.stop ∉ moves := by simp [moves]
  have stays : Move.dropReceiver ∉ moves := by simp [moves]
  have begun : (Ledger.start (.create setup)).course moves = ledger := rfl
  have counts : (stats.received 0, stats.dropped 0, ledger.decoded.length) = (3, 1, 2) := by
    decide +kernel
  have missing : stats.count (.missingTemplates sender.ip) = 1 := by decide +kernel
  have upserted : stats.count .templatesUpserted = 0 := by decide +kernel
  have decoded : sumOf (fun decoding => decoding.outcome.records.length) ledger.decoded = 2 := by
    decide +kernel
  clear_value ledger
  have law := collector_accounts built moves
  rw [begun] at law
  obtain ⟨published, -, -, -, records, -, -, -, -, -, inCustody⟩ := law
  refine ⟨built, running, stays, counts, ?_, ?_, records.trans decoded, (inCustody running stays).2.1⟩
  · rw [published (.missingTemplates sender.ip) (by simp [Counter.head]), Counter.head, missing]
    rfl
  · rw [published .templatesUpserted (by simp [Counter.head]), Counter.head, upserted]
    rfl

end FlowCollector
