import FlowCollector.Proofs.Collector.Course

/-!
# Every record is delivered, once and in order

A record that a worker decoded is at any time in one place: in the consumer's hands, in the outgoing queue,
or with the worker that decoded it. `Ledger.Attributed` says so of all records at once, datagram by datagram:
each datagram's records are cut in two, the first of them were put into the queue in their order, and the
others are what one worker holds. What was put into the queue by all of them is an `Interleaving`, of which
the consumer has received the beginning.

`Ledger.Custody` says the like of datagrams. Both are kept by every event, and when a collector is stopped
and its workers could finish, nothing is left with anyone but the consumer.
-/

set_option autoImplicit false

namespace FlowCollector

open scoped List

/-! ## Where the records and the datagrams are -/

/-- What has become of the records of one datagram, cut where the worker that holds them has come to. -/
structure Share where
  sent : List FlowRecord
  unsent : List FlowRecord

/-- All records of the datagram, in the order in which `Decoding.outcome` has them. -/
def Share.whole (share : Share) : List FlowRecord := share.sent ++ share.unsent

theorem Share.wholes_perm (shares : List Share) :
    (shares.map whole).flatten ~ (shares.map sent).flatten ++ (shares.map unsent).flatten := by
  induction shares with
  | nil => exact .refl _
  | cons first others ih =>
    simp only [List.map_cons, List.flatten_cons, whole, List.append_assoc]
    refine .append_left _ ?_
    calc first.unsent ++ (others.map whole).flatten
        ~ first.unsent ++ ((others.map sent).flatten ++ (others.map unsent).flatten) :=
          ih.append_left _
      _ ~ (others.map sent).flatten ++ (first.unsent ++ (others.map unsent).flatten) :=
          List.perm_append_comm_assoc _ _ _

/-- Where no record is unsent, all of them are sent, and a datagram's share is all of it. -/
theorem Share.map_whole_of_unsent {shares : List Share} (unsent : nonempty [] ~ nonempty (shares.map Share.unsent)) :
    shares.map whole = shares.map sent := by
  refine List.map_congr_left fun share there => ?_
  have none : nonempty (shares.map Share.unsent) = [] := unsent.symm.eq_nil
  have empty : share.unsent = [] := by
    simpa using List.filter_eq_nil_iff.1 none share.unsent (List.mem_map_of_mem there)
  rw [Share.whole, empty, List.append_nil]

namespace Ledger

/-- Every record that was decoded is in one place: there is a `Share` for each datagram, of which the sent records
were put into the queue, one after another, and one worker holds the unsent ones. Nothing else but injected records
was put there, nor is anything else held. -/
def Attributed (ledger : Ledger) : Prop :=
  ∃ shares : List Share, shares.map Share.whole = ledger.records
    ∧ Interleaving (ledger.injected :: shares.map Share.sent) (ledger.received ++ ledger.waiting)
    ∧ nonempty ledger.held ~ nonempty (shares.map Share.unsent)

/-- There is a `Share` for each datagram, of which the sent records were put into the outgoing queue, one after
another, and the others are those in `kept`, a list for each datagram that has any. `Attributed` is the case that the
workers keep them. -/
def Delivered (ledger : Ledger) (kept : List (List FlowRecord)) : Prop :=
  ∃ shares : List Share, shares.map Share.whole = ledger.records
    ∧ Interleaving (ledger.injected :: shares.map Share.sent) (ledger.received ++ ledger.waiting)
    ∧ nonempty kept ~ nonempty (shares.map Share.unsent)

theorem attributed_iff {ledger : Ledger} : ledger.Attributed ↔ ledger.Delivered ledger.held := Iff.rfl

/-- Every datagram that was accepted is in one place: it was decoded, or it waits in an `Intake` (`queued`) or in a
worker's hands (`grasped`) for that. -/
def Custody (ledger : Ledger) : Prop :=
  ledger.accepted ~ ledger.decoded.map Decoding.arrival
    ++ (ledger.collector.workshop.queued ++ ledger.collector.workshop.grasped)

/-- The invariant of a running collector whose consumer stays: every record and every datagram is accounted for.
`Sound.step` keeps it. -/
structure Sound (ledger : Ledger) : Prop where
  unhindered : ledger.collector.Unhindered
  attributed : ledger.Attributed
  custody : ledger.Custody

variable {ledger : Ledger}

/-- Wherever the records are, none is lost and none is there twice. This is `Delivered` without the order. -/
theorem Delivered.conserved {kept : List (List FlowRecord)} (h : ledger.Delivered kept) :
    ledger.received ++ ledger.waiting ++ kept.flatten
      ~ ledger.records.flatten ++ ledger.injected := by
  obtain ⟨shares, whole, merged, unsent⟩ := h
  have rest : kept.flatten ~ (shares.map Share.unsent).flatten := by
    rw [← flatten_nonempty, ← flatten_nonempty (shares.map Share.unsent)]
    exact unsent.flatten
  calc ledger.received ++ ledger.waiting ++ kept.flatten
      ~ ledger.injected ++ (shares.map Share.sent).flatten ++ (shares.map Share.unsent).flatten :=
        merged.perm.append rest
    _ ~ ledger.injected ++ ledger.records.flatten := by
        rw [List.append_assoc, ← whole]
        exact (Share.wholes_perm shares).symm.append_left _
    _ ~ ledger.records.flatten ++ ledger.injected := List.perm_append_comm

/-- A datagram more has been decoded, and a worker holds its records: a new `Share` of which nothing is sent. -/
theorem Attributed.decode {decoding : Decoding} {after : Ledger} (h : ledger.Attributed)
    (decoded : after.decoded = ledger.decoded ++ [decoding])
    (injected : after.injected = ledger.injected)
    (queue : after.received ++ after.waiting = ledger.received ++ ledger.waiting)
    (held : nonempty after.held ~ nonempty (decoding.outcome.records :: ledger.held)) :
    after.Attributed := by
  obtain ⟨shares, whole, merged, unsent⟩ := h
  refine ⟨shares ++ [⟨[], decoding.outcome.records⟩], ?_, ?_, ?_⟩
  · simp only [records, decoded, List.map_append, List.map_singleton, whole, Share.whole,
      List.nil_append]
  · rw [injected, queue, List.map_append, List.map_singleton, ← List.cons_append]
    exact merged.join
  · rw [List.map_append, List.map_singleton]
    calc nonempty after.held
        ~ nonempty (decoding.outcome.records :: ledger.held) := held
      _ ~ nonempty (decoding.outcome.records :: shares.map Share.unsent) :=
        nonempty_perm_cons _ unsent
      _ ~ nonempty (shares.map Share.unsent ++ [decoding.outcome.records]) :=
        nonempty_perm (List.perm_append_singleton _ _).symm

/-- Whoever holds records has put the first of them into the queue: it goes over from `Share.unsent` to
`Share.sent`. -/
theorem Attributed.send {after : Ledger} {next : FlowRecord} {rest : List FlowRecord}
    {others : List (List FlowRecord)} (h : ledger.Attributed)
    (decoded : after.decoded = ledger.decoded) (injected : after.injected = ledger.injected)
    (queue : after.received ++ after.waiting = ledger.received ++ ledger.waiting ++ [next])
    (before : ledger.held ~ (next :: rest) :: others) (held : after.held ~ rest :: others) :
    after.Attributed := by
  obtain ⟨shares, whole, merged, unsent⟩ := h
  -- It holds what is left of one datagram's records, and that is how the datagram is found.
  have holding : nonempty ledger.held ~ (next :: rest) :: nonempty others := nonempty_perm before
  have there : next :: rest ∈ nonempty (shares.map Share.unsent) :=
    unsent.mem_iff.1 (holding.mem_iff.2 List.mem_cons_self)
  obtain ⟨share, member, holds⟩ := List.mem_map.1 (List.mem_filter.1 there).1
  obtain ⟨index, found⟩ := List.getElem?_of_mem member
  have inside := (List.getElem?_eq_some_iff.1 found).1
  have foundHeld : (shares.map Share.unsent)[index]? = some (next :: rest) := by
    rw [List.getElem?_map, found, Option.map_some, holds]
  refine ⟨shares.set index ⟨share.sent ++ [next], rest⟩, ?_, ?_, ?_⟩
  · have same : (⟨share.sent ++ [next], rest⟩ : Share).whole = share.whole := by
      rw [Share.whole, Share.whole, holds, List.append_assoc, List.singleton_append]
    rw [List.map_set, same, set_eq_self (by rw [List.getElem?_map, found, Option.map_some]), whole,
      records, records, decoded]
  · have foundSent : (ledger.injected :: shares.map Share.sent)[index + 1]? = some share.sent := by
      rw [List.getElem?_cons_succ, List.getElem?_map, found, Option.map_some]
    rw [injected, queue, List.map_set, ← List.set_cons_succ]
    exact merged.turn next foundSent
  · have held' := nonempty_perm (perm_eraseIdx foundHeld)
    have same : nonempty others ~ nonempty ((shares.map Share.unsent).eraseIdx index) :=
      (holding.symm.trans (unsent.trans held')).cons_inv
    rw [List.map_set]
    calc nonempty after.held
        ~ nonempty (rest :: others) := nonempty_perm held
      _ ~ nonempty (rest :: (shares.map Share.unsent).eraseIdx index) :=
        nonempty_perm_cons _ same
      _ ~ nonempty ((shares.map Share.unsent).set index rest) :=
        (nonempty_perm (set_perm_eraseIdx rest (by rwa [List.length_map]))).symm

/-! ## Every event keeps all that -/

theorem Sound.start {network : Network} {collector : Collector} (sound : ledger.Sound)
    (h : ledger.collector.start network = .ok collector) : Sound { ledger with collector } := by
  have unhindered := sound.unhindered.start h
  obtain ⟨created, addresses, rfl⟩ := Collector.start_eq_ok h
  refine ⟨unhindered, sound.attributed, ?_⟩
  -- There was no input before, and nothing waits at an input that has just been started.
  have before : ledger.collector.workshop.queued = [] := by
    rw [Workshop.queued, (sound.unhindered.unstarted created).1]
    rfl
  have now : Input.queued (ledger.collector.setup.inputs.map Input.start) = [] := by
    refine List.flatten_eq_nil_iff.2 fun list there => ?_
    obtain ⟨index, inside, rfl⟩ := List.mem_mapIdx.1 there
    rw [List.getElem_map]
    rfl
  have custody := sound.custody
  unfold Custody at custody ⊢
  rw [before] at custody
  rw [Workshop.queued, now]
  exact custody

theorem Sound.arrive (sound : ledger.Sound) (index : Nat) (datagram : Datagram) :
    (ledger.step (.arrive index datagram)).Sound := by
  have unhindered := sound.unhindered.arrive index datagram
  obtain ⟨input, -, found, -, arrived⟩ | ⟨answer, monitor, refused, arrived⟩ :=
    ledger.collector.arrive_cases index datagram
  · simp only [step, arrived] at unhindered ⊢
    refine ⟨unhindered, sound.attributed, ?_⟩
    -- Only the queue of this input has grown, and in a permutation its place does not matter.
    obtain ⟨others, before, now⟩ := Workshop.queued_set found
      { input with intake.waiting := input.intake.waiting ++ [datagram] }
    have grown : Input.queued (ledger.collector.workshop.inputs.set index { input with
        intake.waiting := input.intake.waiting ++ [datagram] })
        ~ ledger.collector.workshop.queued ++ [(index, datagram)] := by
      rw [List.map_append, List.map_singleton, List.append_assoc] at now
      calc _ ~ input.intake.waiting.map (index, ·) ++ ([(index, datagram)] ++ others) := now
        _ ~ input.intake.waiting.map (index, ·) ++ (others ++ [(index, datagram)]) :=
          List.perm_append_comm.append_left _
        _ ~ ledger.collector.workshop.queued ++ [(index, datagram)] := by
          rw [← List.append_assoc]
          exact before.symm.append_right _
    unfold Custody
    calc ledger.accepted ++ [(index, datagram)]
        ~ ledger.decoded.map Decoding.arrival ++ (ledger.collector.workshop.queued
          ++ ledger.collector.workshop.grasped) ++ [(index, datagram)] :=
          sound.custody.append_right _
      _ ~ ledger.decoded.map Decoding.arrival ++ (ledger.collector.workshop.queued
          ++ [(index, datagram)] ++ ledger.collector.workshop.grasped) := by
          rw [List.append_assoc, List.append_assoc, List.append_assoc]
          exact (List.perm_append_comm.append_left _).append_left _
      _ ~ _ := (grown.symm.append_right _).append_left _
  · simp only [step, arrived] at unhindered ⊢
    cases answer with
    | taken => exact absurd rfl refused
    | _ => exact ⟨unhindered, sound.attributed, sound.custody⟩

theorem Sound.inject (sound : ledger.Sound) (record : FlowRecord) :
    (ledger.step (.inject record)).Sound := by
  obtain ⟨-, -, injected⟩ | ⟨answer, refused, injected⟩ := ledger.collector.inject_cases record
  · simp only [step, injected]
    obtain ⟨sending, receiving, running, unstarted, staffable, staffed⟩ := sound.unhindered
    refine ⟨⟨sending, receiving, running, unstarted, staffable, staffed⟩, ?_, sound.custody⟩
    obtain ⟨shares, whole, merged, unsent⟩ := sound.attributed
    refine ⟨shares, whole, ?_, unsent⟩
    have put := merged.turn record (List.getElem?_cons_zero ..)
    rw [List.append_assoc] at put
    exact put
  · simp only [step, injected]
    cases answer with
    | accepted => exact absurd rfl refused
    | _ => exact sound

theorem Sound.receive (sound : ledger.Sound) : (ledger.step .receive).Sound := by
  obtain ⟨record, others, waits, received⟩ | ⟨answer, nothing, received⟩ :=
    ledger.collector.receive_cases
  · simp only [step, received]
    obtain ⟨sending, receiving, running, unstarted, staffable, staffed⟩ := sound.unhindered
    refine ⟨⟨sending, receiving, running, unstarted, staffable, staffed⟩, ?_, sound.custody⟩
    obtain ⟨shares, whole, merged, unsent⟩ := sound.attributed
    refine ⟨shares, whole, ?_, unsent⟩
    rw [waiting, waits] at merged
    simpa [waiting] using merged
  · simp only [step, received]
    cases answer with
    | record record => exact absurd rfl (nothing record)
    | _ => exact sound

theorem Sound.act (sound : ledger.Sound) (act : Act) : (ledger.step (.act act)).Sound := by
  simp only [step]
  cases performed : ledger.collector.workshop.perform? act with
  | none => exact sound
  | some workshop =>
    refine ⟨sound.unhindered.perform performed, ?_, ?_⟩
    · obtain ⟨queue, held⟩ | ⟨nothing, next, rest, others, queue, before, held⟩ :=
        Workshop.held_perform sound.unhindered.receiving performed
      · cases decoded : ledger.collector.workshop.decoding? act with
        | none =>
          obtain ⟨shares, whole, merged, unsent⟩ := sound.attributed
          rw [decoded] at held
          refine ⟨shares, ?_, ?_, held.trans unsent⟩
          · rw [whole, Option.toList_none, records, records, List.append_nil]
          · rw [waiting, queue]
            exact merged
        | some decoding =>
          rw [decoded] at held
          refine sound.attributed.decode rfl rfl ?_ held
          rw [waiting, queue]
          rfl
      · rw [nothing]
        refine sound.attributed.send (List.append_nil _) rfl ?_ before held
        rw [waiting, queue, List.append_assoc]
        rfl
    · have kept := Workshop.queued_perform sound.unhindered.receiving performed
      unfold Custody
      rw [List.map_append, List.append_assoc]
      exact sound.custody.trans (kept.symm.append_left _)

/-- Every event keeps all records and datagrams in their places. Only an `Act.work` that decodes makes a new share, and only
`Act.send` moves a record from one part of it to the other. -/
theorem Sound.step (sound : ledger.Sound) (event : Event) : (ledger.step event).Sound := by
  cases event with
  | start network =>
    simp only [Ledger.step]
    cases started : ledger.collector.start network with
    | error _ => exact sound
    | ok _ => exact sound.start started
  | arrive index datagram => exact sound.arrive index datagram
  | inject record => exact sound.inject record
  | receive => exact sound.receive
  | act act => exact sound.act act

theorem Sound.run (sound : ledger.Sound) (events : List Event) : (ledger.run events).Sound := by
  induction events generalizing ledger with
  | nil => exact sound
  | cons event others ih => exact ih (sound.step event)

theorem sound_start {setup : Setup} {collector : Collector}
    (h : Collector.build setup = .ok collector) : (start collector).Sound := by
  have unhindered := Collector.Unhindered.build h
  obtain ⟨-, rfl⟩ := Collector.build_eq_ok h
  exact ⟨unhindered, ⟨[], rfl, .start (by simp [start]), .refl _⟩, .refl _⟩

/-! ## Stopping -/

/-- Where nothing is kept back, everything decoded was put into the queue, as an `Interleaving` of what each datagram
gave. -/
theorem Delivered.complete (h : ledger.Delivered []) :
    Interleaving (ledger.injected :: ledger.records) (ledger.received ++ ledger.waiting) := by
  obtain ⟨shares, whole, merged, unsent⟩ := h
  rw [← whole, Share.map_whole_of_unsent unsent]
  exact merged

/-- When no act can be done and nobody waits for a place, no worker holds a record: one that did could do `Act.work`. -/
theorem held_of_finished (still : ledger.collector.workshop.act? = none)
    (free : ledger.collector.workshop.outgoing.senders = []) : ledger.held = [] := by
  rw [Ledger.held, Workshop.held, Workshop.hands_of_act_none still, free]
  rfl

/-- When no act can be done and nobody waits for a place, nothing is left with the workers: every datagram was
decoded, and every record was put into the queue. `Custody` gives the first, `Delivered.complete` the second. -/
theorem Sound.finished (sound : ledger.Sound) (still : ledger.collector.workshop.act? = none)
    (free : ledger.collector.workshop.outgoing.senders = []) :
    ledger.decoded.map Decoding.arrival ~ ledger.accepted
      ∧ Interleaving (ledger.injected :: ledger.records) (ledger.received ++ ledger.waiting) := by
  have hands := Workshop.hands_of_act_none still
  have queued := Workshop.queued_of_act_none still free sound.unhindered.staffed
  have custody := sound.custody
  rw [Custody, queued, Workshop.grasped, hands, List.flatMap_nil, List.append_nil,
    List.append_nil] at custody
  have delivered := attributed_iff.1 sound.attributed
  rw [held_of_finished still free] at delivered
  exact ⟨custody.symm, delivered.complete⟩

/-- The workers settle by acts of theirs, of which each could have come as an `Event.act`. -/
theorem exists_settling (ledger : Ledger) : ∃ acts : List Act,
    (ledger.run (acts.map .act)).collector = ledger.collector.settle
      ∧ (ledger.run (acts.map .act)).accepted = ledger.accepted
      ∧ (ledger.run (acts.map .act)).injected = ledger.injected
      ∧ (ledger.run (acts.map .act)).received = ledger.received := by
  obtain ⟨decoded, settled⟩ := ledger.run_settling
  refine ⟨ledger.collector.workshop.settling, ?_⟩
  rw [settled]
  exact ⟨rfl, rfl, rfl, rfl⟩

end Ledger

/-- Whatever happens to a collector of a `Setup` that passes, as long as nobody stops it and the consumer stays, and
in whatever order its workers act: the records that were received, that wait and that workers hold are those of the
datagrams that were decoded and those that were injected, and the records of each datagram come in their order
(`Attributed`, `Custody`). If it is stopped then and `Collector.drains`, every datagram that was accepted is decoded,
and draining gives all records that are still to come, and then the end. `Collector.stop` lets the workers act in one
order. Any other, with receptions between the acts, is an end of `events` after which there is nothing left to do. -/
theorem records_delivered_once_in_order {setup : Setup} {collector : Collector}
    (accepted : Collector.build setup = .ok collector) (events : List Event) :
    let ledger := (Ledger.start collector).run events
    ledger.received ++ ledger.waiting ++ ledger.held.flatten
        ~ ledger.records.flatten ++ ledger.injected
      ∧ ledger.Attributed ∧ ledger.Custody
      ∧ (ledger.collector.drains = true →
          ∃ (acts : List Act) (rest : List FlowRecord) (last : Collector),
            let finished := ledger.run (acts.map .act)
            finished.collector = ledger.collector.settle
              ∧ finished.decoded.map Decoding.arrival ~ ledger.accepted
              ∧ ledger.collector.stop.drain = (rest, .closed, last)
              ∧ ledger.received ++ rest ~ finished.records.flatten ++ ledger.injected
              ∧ Interleaving (ledger.injected :: finished.records) (ledger.received ++ rest)) := by
  intro ledger
  have sound : ledger.Sound := (Ledger.sound_start accepted).run events
  refine ⟨(Ledger.attributed_iff.1 sound.attributed).conserved, sound.attributed, sound.custody, fun drains => ?_⟩
  obtain ⟨acts, settled, sameAccepted, injected, received⟩ := ledger.exists_settling
  have finished := sound.run (acts.map .act)
  have shop : (ledger.run (acts.map .act)).collector.workshop = ledger.collector.workshop.settle :=
    congrArg Collector.workshop settled
  obtain ⟨custody, delivered⟩ := finished.finished (by rw [shop, Workshop.act_settle])
    (by rw [shop]; exact List.isEmpty_iff.1 drains)
  rw [sameAccepted] at custody
  rw [injected, received, Ledger.waiting, shop] at delivered
  -- What is left when the workers have settled is all in the queue, and the stop leaves it there.
  obtain ⟨ended, waiting⟩ := sound.unhindered.stop (settled ▸ finished.unhindered)
  obtain ⟨last, drained⟩ := ended.drain
  refine ⟨acts, ledger.collector.workshop.settle.outgoing.waiting, last, settled, custody, ?_, ?_,
    delivered⟩
  · rw [drained, waiting]
    rfl
  · exact delivered.perm.trans List.perm_append_comm

/-- Two workers that decode in the other order than they took, and send in turns: the record that is injected
between them and those of the two datagrams all arrive. -/
theorem records_delivered_two_workers :
    let setup : Setup := ⟨[⟨.netflow, .v4 ⟨127, 0, 0, 1⟩ 0, 1, 4, 2⟩], 3, 1⟩
    let sender : SocketAddress := .v4 ⟨192, 0, 2, 1⟩ 9995
    let double : Datagram := ⟨sender, 0, [0, 5, 0, 2] ++ List.replicate 116 0⟩
    let single : Datagram := ⟨sender, 0, [0, 5, 0, 1] ++ List.replicate 68 1⟩
    let ledger := (Ledger.start (.create setup)).run
      [.start fun _ address => .ok address, .arrive 0 double, .arrive 0 single,
        .act (.take 0), .act (.take 0), .act (.work 1), .act (.work 0), .act (.work 1),
        .act (.work 0), .act (.send 1), .inject (.blank sender.ip 7), .act (.send 0), .receive,
        .act (.work 0), .act (.work 0), .act (.send 0), .act (.work 0)]
    Collector.build setup = .ok (.create setup)
      ∧ ledger.decoded.map Decoding.arrival = [(0, single), (0, double)]
      ∧ (ledger.received.length, ledger.waiting.length, ledger.held) = (1, 3, [])
      ∧ ledger.collector.drains = true
      ∧ ∃ (acts : List Act) (rest : List FlowRecord) (last : Collector),
          ledger.collector.stop.drain = (rest, .closed, last)
            ∧ ledger.received ++ rest
              ~ (ledger.run (acts.map .act)).records.flatten ++ ledger.injected := by
  intro setup sender double single ledger
  have built : Collector.build setup = .ok (.create setup) := rfl
  have still : ledger.collector.workshop.act?.isNone = true := by decide +kernel
  have drains : ledger.collector.drains = true := by
    rw [Collector.drains, Workshop.settle_of_act_none (Option.isNone_iff_eq_none.1 still)]
    decide +kernel
  refine ⟨built, by decide +kernel, by decide +kernel, drains, ?_⟩
  obtain ⟨acts, rest, last, -, -, drained, received, -⟩ :=
    (records_delivered_once_in_order built _).2.2.2 drains
  exact ⟨acts, rest, last, drained, received⟩

end FlowCollector
