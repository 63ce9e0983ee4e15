import FlowCollector.Proofs.Interleaving
import FlowCollector.Workshop.Settle

/-!
# What the workers keep

Everything that is said here holds of a single act, and so of the acts of all workers in any order. While
someone receives, an act loses nothing: a datagram that was taken is in the hands of a worker until it is
decoded, and a record is held by the worker that decoded it until it is in the outgoing queue. No worker
comes or goes. So when no act can be done, either some worker waits for a place or everything is decoded and
sent.
-/

set_option autoImplicit false

namespace FlowCollector

open scoped List

/-- The datagrams that wait in the `Intake` of any of these inputs, each with its input. -/
def Input.queued (inputs : List Input) : List (Nat × Datagram) :=
  (inputs.mapIdx fun index input => input.intake.waiting.map (index, ·)).flatten

/-- The records in a worker's hands. While it still has its datagram there are none. -/
def Hand.records (hand : Hand) : List FlowRecord :=
  match hand.load with
  | .datagram _ _ => []
  | .records records => records

/-- The datagram in a worker's hands, if it is still to be decoded, and the input where it came in. -/
def Hand.datagrams (hand : Hand) : List (Nat × Datagram) :=
  match hand.load with
  | .datagram _ datagram => [(hand.input, datagram)]
  | .records _ => []

/-- A datagram that was decoded by an act, and what came of it. -/
structure Decoding where
  /-- The input where the datagram came in. -/
  input : Nat
  datagram : Datagram
  outcome : Decoded
  deriving DecidableEq

/-- The datagram as it came in, at its input: what `Ledger.accepted` has of it. -/
def Decoding.arrival (decoding : Decoding) : Nat × Datagram := (decoding.input, decoding.datagram)

namespace Workshop

/-- What each worker holds that is not idle: the records that are still to be sent, in its hands or waiting for a
place. -/
def held (workshop : Workshop) : List (List FlowRecord) :=
  workshop.hands.map Hand.records ++ workshop.outgoing.senders.map Sender.records

/-- The datagrams that wait in the intake queues, each with its input. With `grasped` these are all that are still to
be decoded. -/
def queued (workshop : Workshop) : List (Nat × Datagram) := Input.queued workshop.inputs

/-- The datagrams that were taken from the intake queues by `Act.take` and are still to be decoded. -/
def grasped (workshop : Workshop) : List (Nat × Datagram) := workshop.hands.flatMap Hand.datagrams

/-- The datagram that an act decodes, if it decodes one. Only `Act.work` does. -/
def decoding? (workshop : Workshop) : Act → Option Decoding
  | .work position =>
    match workshop.hands[position]? with
    | some ⟨input, .datagram protocol datagram⟩ =>
      some ⟨input, datagram, (datagram.decode protocol workshop.store).1⟩
    | _ => none
  | _ => none

variable {workshop after : Workshop} {act : Act} {index position : Nat}

/-! ## No worker comes or goes -/

theorem workersOf_take (h : workshop.take? index = some after) (other : Nat) :
    after.workersOf other = workshop.workersOf other := by
  obtain ⟨input, datagram, intake, found, idle, -, rfl⟩ := take_eq_some h
  have inside := (List.getElem?_eq_some_iff.1 found).1
  by_cases same : index = other
  · subst same
    simp only [workersOf, found, List.getElem?_set_self inside, Option.map_some, Option.getD_some,
      List.countP_append, List.countP_singleton, beq_self_eq_true, if_true]
    omega
  · simp [workersOf, same, List.getElem?_set_ne same]

theorem countP_hands_eraseIdx {hand : Hand} (found : workshop.hands[position]? = some hand)
    (p : Hand → Bool) :
    workshop.hands.countP p
      = (workshop.hands.eraseIdx position).countP p + if p hand then 1 else 0 := by
  rw [(perm_eraseIdx found).countP_eq, List.countP_cons]

/-- While someone receives, whoever asks for a place gets to wait, behind all who wait already. -/
theorem ask_letGo (h : workshop.outgoing.receiving = true) (position : Nat) (sender : Sender) :
    (workshop.letGo position).ask sender = { workshop with
      hands := workshop.hands.eraseIdx position
      outgoing := workshop.outgoing.ask sender } := by
  unfold ask
  exact if_pos h

theorem workersOf_decode {owner : Nat} {protocol : Protocol} {datagram : Datagram}
    (found : workshop.hands[position]? = some ⟨owner, .datagram protocol datagram⟩) (index : Nat) :
    (workshop.decode position owner protocol datagram).workersOf index = workshop.workersOf index := by
  have there := (List.getElem?_eq_some_iff.1 found).1
  have swapped := (set_perm_eraseIdx
    ⟨owner, .records (datagram.decode protocol workshop.store).1.records⟩ there).countP_eq
    fun hand => hand.input == index
  have count := countP_hands_eraseIdx found fun hand => hand.input == index
  simp only [List.countP_cons] at swapped
  simp only [workersOf, decode, swapped, count]

theorem workersOf_release {owner : Nat} (found : workshop.hands[position]? = some ⟨owner, .records []⟩)
    (inside : index < workshop.inputs.length) :
    ((workshop.letGo position).release owner).workersOf index = workshop.workersOf index := by
  have count := countP_hands_eraseIdx found fun hand => hand.input == index
  -- The worker is counted among the idle from now on. Without its input it would be counted nowhere.
  obtain ⟨input, there⟩ : ∃ input, workshop.inputs[index]? = some input :=
    ⟨_, List.getElem?_eq_getElem inside⟩
  by_cases same : owner = index
  · simp [workersOf, release, letGo, count, same, there]
    omega
  · simp [workersOf, release, letGo, count, same, there]

theorem workersOf_work (receiving : workshop.outgoing.receiving = true)
    (h : workshop.work? position = some after) (inside : index < workshop.inputs.length) :
    after.workersOf index = workshop.workersOf index := by
  obtain ⟨owner, protocol, datagram, found, rfl⟩ | ⟨owner, found, rfl⟩
    | ⟨owner, next, rest, found, rfl⟩ := work_eq_some h
  · exact workersOf_decode found index
  · exact workersOf_release found inside
  · have count := countP_hands_eraseIdx found fun hand => hand.input == index
    rw [ask_letGo receiving]
    simp only [workersOf, Outgoing.ask, List.countP_append, List.countP_singleton, count]
    omega

theorem workersOf_send (h : workshop.send? position = some after) (index : Nat) :
    after.workersOf index = workshop.workersOf index := by
  obtain ⟨sender, found, -, rfl⟩ := send_eq_some h
  have count := (perm_eraseIdx found).countP_eq fun sender => sender.input == index
  rw [List.countP_cons] at count
  simp only [workersOf, List.countP_append, List.countP_singleton, count]
  omega

/-- An input that changes otherwise than in who is idle there keeps its workers, by `workersOf`. -/
theorem workersOf_set {input : Input} (found : workshop.inputs[index]? = some input) (new : Input)
    (same : new.idle = input.idle) (other : Nat) :
    ({ workshop with inputs := workshop.inputs.set index new } : Workshop).workersOf other
      = workshop.workersOf other := by
  by_cases here : index = other
  · subst here
    have inside := (List.getElem?_eq_some_iff.1 found).1
    simp only [workersOf, List.getElem?_set_self inside, found, Option.map_some, same]
  · simp only [workersOf, List.getElem?_set_ne here]

/-- While someone receives, an input keeps its workers: an act only moves one between idling, working and waiting. -/
theorem workersOf_perform (receiving : workshop.outgoing.receiving = true)
    (h : workshop.perform? act = some after) (inside : index < workshop.inputs.length) :
    after.workersOf index = workshop.workersOf index := by
  cases act with
  | take _ => exact workersOf_take h index
  | work _ => exact workersOf_work receiving h inside
  | send _ => exact workersOf_send h index

/-! ## A datagram is in hand until it is decoded -/

/-- What waits at the other inputs does not matter to what happens at one, so `queued` is that of the one and the
rest. -/
theorem queued_set {inputs : List Input} {input : Input} (found : inputs[index]? = some input)
    (new : Input) :
    ∃ others, Input.queued inputs ~ input.intake.waiting.map (index, ·) ++ others
      ∧ Input.queued (inputs.set index new) ~ new.intake.waiting.map (index, ·) ++ others := by
  let waiting (index : Nat) (input : Input) := input.intake.waiting.map (index, ·)
  have inside := (List.getElem?_eq_some_iff.1 found).1
  have there : (inputs.mapIdx waiting)[index]? = some (waiting index input) := by
    rw [List.getElem?_mapIdx, found, Option.map_some]
  refine ⟨((inputs.mapIdx waiting).eraseIdx index).flatten, (perm_eraseIdx there).flatten, ?_⟩
  unfold Input.queued
  rw [List.mapIdx_set]
  exact (set_perm_eraseIdx _ (by rwa [List.length_mapIdx])).flatten

theorem queued_take (h : workshop.take? index = some after) :
    after.queued ++ after.grasped ~ workshop.queued ++ workshop.grasped := by
  obtain ⟨input, datagram, intake, found, -, popped, rfl⟩ := take_eq_some h
  obtain ⟨others, before, left⟩ := queued_set found { input with intake, idle := input.idle - 1 }
  rw [(Intake.pop_eq_some popped).1, List.map_cons] at before
  simp only [queued, grasped, List.flatMap_append, List.flatMap_singleton, Hand.datagrams]
  calc Input.queued (workshop.inputs.set index { input with intake, idle := input.idle - 1 })
        ++ (workshop.hands.flatMap Hand.datagrams ++ [(index, datagram)])
      ~ intake.waiting.map (index, ·) ++ others
        ++ (workshop.hands.flatMap Hand.datagrams ++ [(index, datagram)]) := left.append_right _
    _ ~ (index, datagram) :: (intake.waiting.map (index, ·) ++ others
        ++ workshop.hands.flatMap Hand.datagrams) := by
      rw [← List.append_assoc]
      exact List.perm_append_comm
    _ ~ Input.queued workshop.inputs ++ workshop.hands.flatMap Hand.datagrams :=
      before.symm.append_right _

theorem queued_release (workshop : Workshop) (index : Nat) :
    (workshop.release index).queued = workshop.queued := by
  refine congrArg List.flatten (List.ext_getElem? fun other => ?_)
  simp only [release, List.getElem?_mapIdx, List.getElem?_modify]
  cases workshop.inputs[other]? with
  | none => rfl
  | some input =>
    simp only [Option.map_some]
    split <;> rfl

theorem grasped_hand {hand : Hand} (found : workshop.hands[position]? = some hand) :
    workshop.grasped ~ hand.datagrams ++ (workshop.letGo position).grasped :=
  (perm_eraseIdx found).flatMap_right _

theorem queued_work (receiving : workshop.outgoing.receiving = true)
    (h : workshop.work? position = some after) :
    (workshop.decoding? (.work position)).toList.map Decoding.arrival
      ++ (after.queued ++ after.grasped) ~ workshop.queued ++ workshop.grasped := by
  obtain ⟨owner, protocol, datagram, found, rfl⟩ | ⟨owner, found, rfl⟩
    | ⟨owner, next, rest, found, rfl⟩ := work_eq_some h
  · have there := (List.getElem?_eq_some_iff.1 found).1
    have empty : (workshop.decode position owner protocol datagram).grasped
        ~ (workshop.letGo position).grasped :=
      (set_perm_eraseIdx _ there).flatMap_right _
    have graspedBefore := grasped_hand found
    simp only [decoding?, found, Option.toList_some, List.map_cons, List.map_nil,
      Decoding.arrival]
    calc [(owner, datagram)] ++ (workshop.queued
          ++ (workshop.decode position owner protocol datagram).grasped)
        ~ [(owner, datagram)] ++ (workshop.queued ++ (workshop.letGo position).grasped) :=
          (empty.append_left _).append_left _
      _ ~ workshop.queued ++ ([(owner, datagram)] ++ (workshop.letGo position).grasped) :=
          List.perm_append_comm_assoc _ _ _
      _ ~ workshop.queued ++ workshop.grasped := graspedBefore.symm.append_left _
  · simp only [decoding?, found, Option.toList_none, List.map_nil, List.nil_append, queued_release]
    exact (grasped_hand found).symm.append_left _
  · rw [ask_letGo receiving]
    simp only [decoding?, found, Option.toList_none, List.map_nil, List.nil_append]
    exact (grasped_hand found).symm.append_left _

theorem queued_send (h : workshop.send? position = some after) :
    after.queued ++ after.grasped = workshop.queued ++ workshop.grasped := by
  obtain ⟨sender, -, -, rfl⟩ := send_eq_some h
  simp [queued, grasped, Hand.datagrams]

/-- While someone receives, a datagram that waited is decoded by an act (`decoding?`), or is still to be decoded. -/
theorem queued_perform (receiving : workshop.outgoing.receiving = true)
    (h : workshop.perform? act = some after) :
    (workshop.decoding? act).toList.map Decoding.arrival ++ (after.queued ++ after.grasped)
      ~ workshop.queued ++ workshop.grasped := by
  cases act with
  | take _ => exact queued_take h
  | work _ => exact queued_work receiving h
  | send _ => exact .of_eq (queued_send h)

/-! ## A record is held until it is in the queue -/

theorem held_hand {hand : Hand} (found : workshop.hands[position]? = some hand) :
    workshop.held ~ hand.records :: (workshop.letGo position).held :=
  ((perm_eraseIdx found).map _).append_right _

theorem held_take (h : workshop.take? index = some after) : after.held ~ [] :: workshop.held := by
  obtain ⟨input, datagram, intake, -, -, -, rfl⟩ := take_eq_some h
  simp only [held, List.map_append, List.map_singleton, Hand.records, List.append_assoc]
  exact List.perm_middle

theorem held_work (receiving : workshop.outgoing.receiving = true)
    (h : workshop.work? position = some after) :
    nonempty after.held
      ~ nonempty ((workshop.decoding? (.work position)).toList.map (·.outcome.records)
          ++ workshop.held) := by
  obtain ⟨owner, protocol, datagram, found, rfl⟩ | ⟨owner, found, rfl⟩
    | ⟨owner, next, rest, found, rfl⟩ := work_eq_some h
  · have there := (List.getElem?_eq_some_iff.1 found).1
    have filled : (workshop.decode position owner protocol datagram).held
        ~ (datagram.decode protocol workshop.store).1.records :: (workshop.letGo position).held :=
      ((set_perm_eraseIdx _ there).map Hand.records).append_right _
    have was : workshop.held ~ [] :: (workshop.letGo position).held := held_hand found
    simp only [decoding?, found, Option.toList_some, List.map_cons, List.map_nil]
    -- A worker that holds no record counts for nothing, so it can be put in beside the one that now does.
    calc nonempty (workshop.decode position owner protocol datagram).held
        ~ nonempty ((datagram.decode protocol workshop.store).1.records
            :: (workshop.letGo position).held) := nonempty_perm filled
      _ = nonempty ([] :: (datagram.decode protocol workshop.store).1.records
            :: (workshop.letGo position).held) := (nonempty_nil_cons _).symm
      _ ~ nonempty ((datagram.decode protocol workshop.store).1.records
            :: [] :: (workshop.letGo position).held) := nonempty_perm (.swap _ _ _)
      _ ~ nonempty ((datagram.decode protocol workshop.store).1.records :: workshop.held) :=
          nonempty_perm (was.symm.cons _)
  · have was : workshop.held ~ [] :: (workshop.letGo position).held := held_hand found
    simp only [decoding?, found, Option.toList_none, List.map_nil, List.nil_append]
    exact (nonempty_perm was).symm
  · have was : workshop.held ~ (next :: rest) :: (workshop.letGo position).held := held_hand found
    rw [ask_letGo receiving]
    simp only [decoding?, found, Option.toList_none, List.map_nil, List.nil_append]
    refine nonempty_perm (.trans ?_ was.symm)
    simp only [held, Outgoing.ask, letGo, List.map_append, List.map_singleton, Sender.records,
      ← List.append_assoc]
    exact List.perm_append_singleton _ _

/-- Sending by `send?` takes a record from whoever holds it to the end of the queue. -/
theorem held_send (h : workshop.send? position = some after) :
    ∃ next rest others, after.outgoing.waiting = workshop.outgoing.waiting ++ [next]
      ∧ workshop.held ~ (next :: rest) :: others ∧ after.held ~ rest :: others := by
  obtain ⟨sender, found, -, rfl⟩ := send_eq_some h
  refine ⟨sender.next, sender.rest, workshop.hands.map Hand.records
    ++ (workshop.outgoing.senders.eraseIdx position).map Sender.records, rfl, ?_, ?_⟩
  · exact (((perm_eraseIdx found).map Sender.records).append_left _).trans List.perm_middle
  · simp only [held, List.map_append, List.map_singleton, Hand.records, List.append_assoc]
    exact List.perm_middle

/-- While someone receives, an act either leaves the queue alone, and at most makes some worker hold the records it
has just decoded, or it puts into the queue the first record of those that some worker has in `held`. -/
theorem held_perform (receiving : workshop.outgoing.receiving = true)
    (h : workshop.perform? act = some after) :
    (after.outgoing.waiting = workshop.outgoing.waiting
      ∧ nonempty after.held
        ~ nonempty ((workshop.decoding? act).toList.map (·.outcome.records) ++ workshop.held))
    ∨ (workshop.decoding? act = none
      ∧ ∃ next rest others, after.outgoing.waiting = workshop.outgoing.waiting ++ [next]
        ∧ workshop.held ~ (next :: rest) :: others ∧ after.held ~ rest :: others) := by
  cases act with
  | take index =>
    have emptyHanded := nonempty_perm (held_take h)
    obtain ⟨_, _, _, -, -, -, rfl⟩ := take_eq_some h
    exact .inl ⟨rfl, emptyHanded⟩
  | work position =>
    refine .inl ⟨?_, held_work receiving h⟩
    obtain ⟨_, _, _, -, rfl⟩ | ⟨_, -, rfl⟩ | ⟨_, _, _, -, rfl⟩ := work_eq_some h
    · rfl
    · rfl
    · rw [ask_letGo receiving]
      rfl
  | send position => exact .inr ⟨rfl, held_send h⟩

/-! ## What no act touches, and when there is none left -/

/-- An act neither opens nor closes the outgoing queue, and no input comes or goes by it. -/
theorem perform_frame (h : workshop.perform? act = some after) :
    after.outgoing.receiving = workshop.outgoing.receiving
      ∧ after.outgoing.sending = workshop.outgoing.sending
      ∧ after.inputs.length = workshop.inputs.length := by
  cases act with
  | take _ =>
    obtain ⟨_, _, _, -, -, -, rfl⟩ := take_eq_some h
    exact ⟨rfl, rfl, List.length_set⟩
  | work position =>
    rcases work_eq_some h with ⟨_, _, _, -, rfl⟩ | ⟨_, -, rfl⟩ | ⟨_, _, _, -, rfl⟩
    · exact ⟨rfl, rfl, rfl⟩
    · exact ⟨rfl, rfl, List.length_modify ..⟩
    · unfold ask
      split
      · exact ⟨rfl, rfl, rfl⟩
      · exact ⟨rfl, rfl, List.length_mapIdx⟩
  | send _ =>
    obtain ⟨_, -, -, rfl⟩ := send_eq_some h
    exact ⟨rfl, rfl, rfl⟩

/-- Whatever an act decodes is counted by `addDecoded`, and nothing else is. -/
theorem monitor_perform (h : workshop.perform? act = some after) :
    (∃ decoding protocol, workshop.decoding? act = some decoding
      ∧ after.monitor
        = workshop.monitor.addDecoded protocol decoding.datagram.sender.ip decoding.outcome)
    ∨ workshop.decoding? act = none
      ∧ (after.monitor = workshop.monitor ∨ ∃ size, after.monitor = workshop.monitor.setOutgoing size) := by
  cases act with
  | take _ =>
    obtain ⟨_, _, _, -, -, -, rfl⟩ := take_eq_some h
    exact .inr ⟨rfl, .inl rfl⟩
  | work position =>
    rcases work_eq_some h with ⟨owner, protocol, datagram, found, rfl⟩ | ⟨_, found, rfl⟩ | ⟨_, _, _, found, rfl⟩
    · refine .inl ⟨⟨owner, datagram, (datagram.decode protocol workshop.store).1⟩, protocol, ?_, rfl⟩
      simp only [decoding?, found]
    · exact .inr ⟨by simp only [decoding?, found], .inr ⟨_, rfl⟩⟩
    · refine .inr ⟨by simp only [decoding?, found], .inl ?_⟩
      unfold ask
      split <;> rfl
  | send _ =>
    obtain ⟨_, -, -, rfl⟩ := send_eq_some h
    exact .inr ⟨rfl, .inl rfl⟩

/-- Without workers there are no acts that `perform?` can do. -/
theorem perform_of_empty (inputs : workshop.inputs = []) (hands : workshop.hands = [])
    (senders : workshop.outgoing.senders = []) : workshop.perform? act = none := by
  cases act with
  | take index => simp only [perform?, take?, inputs, List.getElem?_nil]
  | work position => simp only [perform?, work?, hands, List.getElem?_nil]
  | send position => simp only [perform?, send?, Outgoing.send?, senders, List.getElem?_nil]

/-- When no act can be done, nothing is in anyone's hands: whoever has something there could `work?`. -/
theorem hands_of_act_none (h : workshop.act? = none) : workshop.hands = [] := by
  have idle := List.findSome?_eq_none_iff.1 h (.work 0) List.mem_cons_self
  simp only [perform?, work?] at idle
  split at idle
  case _ nobody =>
    exact List.length_eq_zero_iff.1 (Nat.le_zero.1 (List.getElem?_eq_none_iff.1 nobody))
  all_goals cases idle

/-- When no act can be done, nothing waits at an input with an idle worker: that one could `take?` it. -/
theorem waiting_of_act_none (h : workshop.act? = none) {input : Input}
    (found : workshop.inputs[index]? = some input) (idle : 0 < input.idle) :
    input.intake.waiting = [] := by
  have inside := (List.getElem?_eq_some_iff.1 found).1
  have tried : Act.take index ∈ workshop.acts :=
    .tail _ (.tail _ (List.mem_map_of_mem (List.mem_range.2 inside)))
  have stuck := List.findSome?_eq_none_iff.1 h _ tried
  simp only [perform?, take?, found, Nat.ne_of_gt idle, if_false] at stuck
  cases waits : input.intake.waiting with
  | nil => rfl
  | cons datagram others => simp [Intake.pop?, waits] at stuck

/-- When no act can be done and no worker waits for a place, the workers of an input are idle: `workersOf` counts
nobody else. -/
theorem idle_of_act_none (h : workshop.act? = none) (free : workshop.outgoing.senders = []) {input : Input}
    (found : workshop.inputs[index]? = some input) : input.idle = workshop.workersOf index := by
  simp only [workersOf, found, hands_of_act_none h, free, Option.map_some, Option.getD_some, List.countP_nil,
    Nat.add_zero]

/-- When no act can be done, no worker waits for a place, and every input has a worker, then no datagram waits either,
and `queued` is empty. -/
theorem queued_of_act_none (h : workshop.act? = none) (free : workshop.outgoing.senders = [])
    (staffed : ∀ index < workshop.inputs.length, 0 < workshop.workersOf index) :
    workshop.queued = [] := by
  refine List.flatten_eq_nil_iff.2 fun list there => ?_
  obtain ⟨index, inside, rfl⟩ := List.mem_mapIdx.1 there
  have found := List.getElem?_eq_getElem inside
  have worker := staffed index inside
  rw [← idle_of_act_none h free found] at worker
  rw [waiting_of_act_none h found worker, List.map_nil]

/-- Workers put records at the end of the queue by `send?`, and take none away. -/
theorem waiting_isPrefix_perform (h : workshop.perform? act = some after) :
    workshop.outgoing.waiting <+: after.outgoing.waiting := by
  cases act with
  | take _ =>
    obtain ⟨_, _, _, -, -, -, rfl⟩ := take_eq_some h
    exact List.prefix_rfl
  | work position =>
    rcases work_eq_some h with ⟨_, _, _, -, rfl⟩ | ⟨_, -, rfl⟩ | ⟨_, _, _, -, rfl⟩
    · exact List.prefix_rfl
    · exact List.prefix_rfl
    · unfold ask
      split <;> exact List.prefix_rfl
  | send _ =>
    obtain ⟨_, -, -, rfl⟩ := send_eq_some h
    exact List.prefix_append _ _

theorem waiting_isPrefix_settle (workshop : Workshop) :
    workshop.outgoing.waiting <+: workshop.settle.outgoing.waiting := by
  fun_induction settle workshop with
  | case1 => exact List.prefix_rfl
  | case2 workshop after acted ih =>
    obtain ⟨_, act, _, _, performed, _⟩ := List.findSome?_eq_some_iff.1 acted
    exact (waiting_isPrefix_perform performed).trans ih

/-- Nothing happens by itself: each worker waits, and `perform?` can do no act. -/
def Resting (workshop : Workshop) : Prop := ∀ act, workshop.perform? act = none

/-- A worker that waits longer for a place cannot get one before those that wait less, so of the senders only the
first has to be tried, as `act?` does. -/
theorem act_eq_none_iff : workshop.act? = none ↔ workshop.Resting := by
  constructor
  · intro still act
    have tried := List.findSome?_eq_none_iff.1 still
    cases act with
    | take index =>
      by_cases inside : index < workshop.inputs.length
      · exact tried _ (.tail _ (.tail _ (List.mem_map_of_mem (List.mem_range.2 inside))))
      · simp only [perform?, take?, List.getElem?_eq_none (Nat.le_of_not_lt inside)]
    | work position =>
      simp only [perform?, work?, hands_of_act_none still, List.getElem?_nil]
    | send position =>
      cases done : workshop.send? position with
      | none => exact done
      | some after =>
        obtain ⟨sender, found, room, -⟩ := send_eq_some done
        have first := tried (.send 0) (.tail _ List.mem_cons_self)
        cases senders : workshop.outgoing.senders with
        | nil =>
          rw [senders] at found
          cases found
        | cons longest others =>
          have given : 0 < workshop.outgoing.free := by omega
          simp [perform?, send?, Outgoing.send?, senders, given] at first
  · intro resting
    exact List.findSome?_eq_none_iff.2 fun act _ => resting act

/-- When the workers have settled by `settle`, no act can be done. -/
theorem act_settle (workshop : Workshop) : workshop.settle.act? = none := by
  fun_induction settle workshop with
  | case1 workshop h => exact h
  | case2 _ _ _ ih => exact ih

/-- Settling goes on after an act as if it began there. -/
theorem settle_of_act_some (h : workshop.act? = some after) : workshop.settle = after.settle := by
  rw [settle]
  split
  case _ still =>
    rw [h] at still
    cases still
  case _ acted =>
    rw [h] at acted
    cases acted
    rfl

/-- Where no act can be done, `settle` changes nothing. -/
theorem settle_of_act_none (h : workshop.act? = none) : workshop.settle = workshop := by
  rw [settle]
  split
  · rfl
  case _ acted =>
    rw [h] at acted
    cases acted

end Workshop

end FlowCollector
