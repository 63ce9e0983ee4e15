import FlowCollector.Proofs.Collector.Backpressure

/-!
# What a healthy collector can do

A running collector is healthy while there is room in its queue of records. While the consumer stays, that says what one
hopes for: workers end only when nobody receives, so every input has all of its workers, and a datagram that is taken is
decoded.

Once the consumer is gone nothing waits in that queue any more, and health says nothing of the workers. They end one by
one, each at the first record that it has to send. `Workshop.Attended` is what still holds then: the intake queue of an
input is open as long as one of its workers is left.
-/

set_option autoImplicit false

namespace FlowCollector

open scoped List

/-! ## When a collector is healthy -/

theorem Collector.health_eq_healthy_iff {collector : Collector} :
    collector.health = .healthy ↔ collector.phase = .started
      ∧ 10 * collector.workshop.outgoing.length ≤ 9 * collector.setup.outgoingQueueSize.toNat := by
  unfold Collector.health
  cases collector.phase with
  | created => simp
  | stopped => simp
  | started =>
    simp only [Health.ofOccupancy, Health.isCrowded, decide_eq_true_eq, true_and]
    split
    case isTrue crowded => simp [crowded]
    case isFalse room => simp [Nat.not_lt.1 room]

/-! ## Who is left at an input -/

/-- An input as it was set up. Its `Intake` can be received from as long as a worker is left to do so, and is dropped
with the last of them. -/
structure Input.Attended (made : InputSetup) (workers : Nat) (input : Input) : Prop where
  protocol : input.protocol = made.protocol
  capacity : input.intake.capacity = made.queueSize.toNat
  opened : 0 < workers → input.intake.reception = .opened
  lost : workers = 0 → input.intake.reception = .dropped

namespace Input.Attended

variable {made : InputSetup} {workers fewer : Nat} {input : Input}

/-- A datagram is taken if there is someone to decode it, and a place for it until then: `Intake.hasRoom` of an
attended input says just that. -/
theorem hasRoom_iff (h : input.Attended made workers) :
    input.intake.hasRoom = true ↔ 0 < workers ∧ input.intake.length < made.queueSize.toNat := by
  rw [Intake.hasRoom_iff, h.capacity]
  refine and_congr_left fun _ => ⟨?_, h.opened⟩
  intro opened
  by_contra nobody
  rw [h.lost (Nat.eq_zero_of_not_pos nobody)] at opened
  cases opened

/-- The last worker that goes takes the queue with it, as `Workshop.abandonInputs` has it. -/
theorem abandon (h : input.Attended made workers) (less : fewer ≤ workers) :
    (if fewer = 0 then { input with intake := input.intake.drop } else input).Attended made fewer := by
  split
  case isTrue nobody => exact ⟨h.protocol, h.capacity, fun some_left => by omega, fun _ => rfl⟩
  case isFalse someone =>
    exact ⟨h.protocol, h.capacity, fun _ => h.opened (by omega), fun nobody => absurd nobody someone⟩

end Input.Attended

namespace Workshop

/-- Every input is as it was set up, and open as long as it has a worker: each is `Input.Attended` with its
`workersOf`. -/
def Attended (setup : Setup) (workshop : Workshop) : Prop :=
  ∀ (index : Nat) (input : Input), workshop.inputs[index]? = some input →
    ∃ made, setup.inputs[index]? = some made ∧ input.Attended made (workshop.workersOf index)

variable {setup : Setup} {workshop after : Workshop} {act : Act} {index position : Nat}

theorem workersOf_abandonInputs (workshop : Workshop) (index : Nat) :
    workshop.abandonInputs.workersOf index = workshop.workersOf index := by
  have idle : (workshop.abandonInputs.inputs[index]?.map (·.idle)) = workshop.inputs[index]?.map (·.idle) := by
    simp only [abandonInputs, List.getElem?_mapIdx, Option.map_map]
    refine congrArg (fun change => workshop.inputs[index]?.map change) (funext fun input => ?_)
    dsimp only [Function.comp]
    split <;> rfl
  rw [workersOf, idle]
  rfl

theorem workersOf_letGo_le (workshop : Workshop) (position index : Nat) :
    (workshop.letGo position).workersOf index ≤ workshop.workersOf index := by
  have hands := (List.eraseIdx_sublist workshop.hands position).countP_le (p := fun hand => hand.input == index)
  simp only [workersOf, letGo]
  omega

namespace Attended

/-- Workers have gone, and with the last of an input its queue, which `abandonInputs` drops. -/
theorem abandonInputs (h : workshop.Attended setup) (inputs : after.inputs = workshop.inputs)
    (fewer : ∀ index, after.workersOf index ≤ workshop.workersOf index) :
    after.abandonInputs.Attended setup := by
  intro index input found
  simp only [Workshop.abandonInputs, List.getElem?_mapIdx, inputs] at found
  obtain ⟨before, there, rfl⟩ := Option.map_eq_some_iff.1 found
  obtain ⟨made, asked, attended⟩ := h _ _ there
  rw [workersOf_abandonInputs]
  exact ⟨made, asked, attended.abandon (fewer index)⟩

/-- An input changes, and neither what it was set up as nor who is there. This is what `take?` and `Collector.arrive`
do to one. -/
theorem set {before : Input} (h : workshop.Attended setup)
    (found : workshop.inputs[index]? = some before) (input : Input) (protocol : input.protocol = before.protocol)
    (capacity : input.intake.capacity = before.intake.capacity)
    (reception : input.intake.reception = before.intake.reception)
    (inputs : after.inputs = workshop.inputs.set index input)
    (workers : ∀ other, after.workersOf other = workshop.workersOf other) : after.Attended setup := by
  intro other now there
  rw [inputs] at there
  rw [workers]
  by_cases here : index = other
  · subst here
    rw [List.getElem?_set_self (List.getElem?_eq_some_iff.1 found).1] at there
    obtain rfl := Option.some.inj there
    obtain ⟨made, asked, attended⟩ := h _ _ found
    refine ⟨made, asked, protocol.trans attended.protocol, capacity.trans attended.capacity, ?_, ?_⟩
    · rw [reception]
      exact attended.opened
    · rw [reception]
      exact attended.lost
  · rw [List.getElem?_set_ne here] at there
    exact h _ _ there

theorem perform (h : workshop.Attended setup) (performed : workshop.perform? act = some after) :
    after.Attended setup := by
  cases act with
  | take index =>
    have workers := workersOf_take performed
    obtain ⟨before, datagram, intake, found, -, popped, rfl⟩ := take_eq_some performed
    have rest := (Intake.pop_eq_some popped).2
    have capacity : intake.capacity = before.intake.capacity := by rw [rest]
    have reception : intake.reception = before.intake.reception := by rw [rest]
    exact h.set found { before with intake, idle := before.idle - 1 } rfl capacity reception rfl workers
  | work position =>
    rcases work_eq_some performed with ⟨owner, protocol, datagram, found, rfl⟩ | ⟨owner, found, rfl⟩
      | ⟨owner, next, rest, found, rfl⟩
    · intro index input there
      rw [workersOf_decode found]
      exact h _ _ there
    · intro index input there
      simp only [release, letGo, List.getElem?_modify] at there
      obtain ⟨before, was, rfl⟩ := Option.map_eq_some_iff.1 there
      rw [workersOf_release found (List.getElem?_eq_some_iff.1 was).1]
      obtain ⟨made, asked, attended⟩ := h _ _ was
      refine ⟨made, asked, ?_⟩
      split
      · exact ⟨attended.protocol, attended.capacity, attended.opened, attended.lost⟩
      · exact attended
    · by_cases receiving : workshop.outgoing.receiving = true
      · intro index input there
        have inside := (List.getElem?_eq_some_iff.1 there).1
        rw [ask_letGo receiving] at there inside
        rw [workersOf_work receiving performed inside]
        exact h _ _ there
      · -- Nobody receives any more, and so the worker ends.
        have ended : (workshop.letGo position).ask ⟨owner, next, rest⟩ = (workshop.letGo position).abandonInputs :=
          if_neg receiving
        rw [ended]
        exact h.abandonInputs rfl (workshop.workersOf_letGo_le position)
  | send position =>
    have workers := workersOf_send performed
    obtain ⟨sender, -, -, rfl⟩ := send_eq_some performed
    intro index input there
    rw [workers]
    exact h _ _ there

end Attended

end Workshop

/-! ## Whatever has become of the consumer -/

/-- A collector whose inputs are `Workshop.Attended`. Once it has been started, there is an input and an address for
each that it was set up with. -/
structure Collector.Attended (setup : Setup) (collector : Collector) : Prop where
  same : collector.setup = setup
  staged : collector.Staged
  inputs : collector.workshop.Attended setup
  /-- Nobody waits for a place where nobody receives: `Outgoing.dropReceiver` sends those away who did, and `ask` lets
  nobody in after it. -/
  deserted : collector.workshop.outgoing.receiving = false → collector.workshop.outgoing.senders = []
  addresses : collector.phase = .started → collector.addresses.length = setup.inputs.length
  complete : collector.phase = .started → collector.workshop.inputs.length = setup.inputs.length

/-- Where nobody works, before a start and after a stop, nothing is asked of the inputs. -/
theorem Collector.Staged.attended {setup : Setup} {collector : Collector} (staged : collector.Staged)
    (same : collector.setup = setup) (idle : collector.phase ≠ .started) : collector.Attended setup := by
  obtain ⟨inputs, -, senders⟩ := staged.unmanned idle
  refine ⟨same, staged, ?_, fun _ => senders, fun started => absurd started idle,
    fun started => absurd started idle⟩
  intro index input found
  rw [inputs] at found
  cases found

theorem Workshop.deserted_perform {workshop after : Workshop} {act : Act}
    (deserted : workshop.outgoing.receiving = false → workshop.outgoing.senders = [])
    (h : workshop.perform? act = some after) :
    after.outgoing.receiving = false → after.outgoing.senders = [] := by
  cases act with
  | take _ =>
    obtain ⟨_, _, _, -, -, -, rfl⟩ := take_eq_some h
    exact deserted
  | work position =>
    rcases work_eq_some h with ⟨_, _, _, -, rfl⟩ | ⟨_, -, rfl⟩ | ⟨_, _, _, -, rfl⟩
    · exact deserted
    · exact deserted
    · unfold ask
      split
      case isTrue receiving =>
        intro gone
        exact absurd (receiving.symm.trans gone) (by simp)
      case isFalse => exact deserted
  | send position =>
    obtain ⟨sender, found, -, rfl⟩ := send_eq_some h
    intro gone
    rw [deserted gone] at found
    cases found

namespace Collector.Change

variable {setup : Setup} {collector after : Collector} {event : Event}

theorem attended (change : collector.Change event after) (passes : setup.check = .ok ())
    (attended : collector.Attended setup)
    (addresses : after.phase = .started → after.addresses.length = setup.inputs.length) :
    after.Attended setup := by
  have staged := change.staged attended.staged
  obtain ⟨same, before, inputs, deserted, -, complete⟩ := attended
  cases change with
  | started created =>
    obtain ⟨-, hands, senders⟩ := before.unmanned (by simp [created])
    refine ⟨same, staged, ?_, deserted, addresses, fun _ => by rw [List.length_map, same]⟩
    intro index input found
    simp only [same, List.getElem?_map] at found
    obtain ⟨made, asked, rfl⟩ := Option.map_eq_some_iff.1 found
    refine ⟨made, asked, rfl, rfl, fun _ => rfl, ?_⟩
    intro nobody
    have worker := Setup.decodeWorkers_pos passes made (List.mem_of_getElem? asked)
    simp [Workshop.workersOf, same, asked, hands, senders, Input.start] at nobody
    omega
  | @taken index datagram input _ found _ =>
    refine ⟨same, staged, ?_, deserted, addresses, ?_⟩
    · exact inputs.set found { input with intake.waiting := input.intake.waiting ++ [datagram] } rfl rfl rfl rfl
        (Workshop.workersOf_set found _ rfl)
    · intro started
      rw [List.length_set]
      exact complete started
  | acted performed =>
    refine ⟨same, staged, inputs.perform performed, Workshop.deserted_perform deserted performed, addresses, ?_⟩
    intro started
    exact (Workshop.perform_frame performed).2.2.trans (complete started)
  | _ => exact ⟨same, staged, inputs, deserted, addresses, complete⟩

end Collector.Change

namespace Ledger

variable {setup : Setup} {ledger : Ledger}

theorem attended_start {collector : Collector} (h : Collector.build setup = .ok collector) :
    (start collector).collector.Attended setup := by
  have staged := staged_start h
  obtain ⟨-, rfl⟩ := Collector.build_eq_ok h
  exact staged.attended rfl (by simp [start, Collector.create])

theorem addresses_step (attended : ledger.collector.Attended setup) (event : Event) :
    (ledger.step event).collector.phase = .started →
      (ledger.step event).collector.addresses.length = setup.inputs.length := by
  have change := ledger.change_step event
  cases event with
  | start network =>
    simp only [step]
    cases started : ledger.collector.start network with
    | error _ => exact attended.addresses
    | ok after =>
      intro _
      rw [← attended.same]
      exact Collector.length_addresses_of_start started
  | _ =>
    generalize (ledger.step _).collector = after at change
    cases change <;> exact attended.addresses

/-- Every move leaves the inputs attended, and when the consumer goes so do those who wait for it. Unlike
`Collector.Unhindered` this holds to the end of any course. -/
theorem kept_attended (passes : setup.check = .ok ()) : Kept fun ledger => ledger.collector.Attended setup where
  step := fun attended event => (change_step _ event).attended passes attended (addresses_step attended event)
  stop := by
    intro ledger attended resting
    have staged := kept_staged.stop attended.staged resting
    have setup : ledger.collector.stop.setup = ledger.collector.setup := by
      unfold Collector.stop
      split <;> rfl
    exact staged.attended (setup.trans attended.same) (by simp [phase_stop])
  dropReceiver := by
    intro ledger attended
    have staged := kept_staged.dropReceiver attended.staged
    obtain ⟨same, -, inputs, -, addresses, complete⟩ := attended
    refine ⟨same, staged, ?_, fun _ => rfl, addresses, ?_⟩
    · let deserted : Workshop :=
        { ledger.collector.workshop with outgoing := ledger.collector.workshop.outgoing.dropReceiver }
      have fewer (index : Nat) : deserted.workersOf index ≤ ledger.collector.workshop.workersOf index := by
        simp only [deserted, Workshop.workersOf, Outgoing.dropReceiver, List.countP_nil]
        omega
      exact inputs.abandonInputs rfl fewer
    · intro started
      exact List.length_mapIdx.trans (complete started)

end Ledger

/-! ## What becomes of a datagram -/

/-- True of what needs nobody but the workers and the consumer: the events that go on by themselves once a datagram
was taken. -/
def Event.isOnward : Event → Bool
  | .act _ | .receive => true
  | .start _ | .arrive _ _ | .inject _ => false

namespace Workshop

variable {workshop after : Workshop} {act : Act} {index : Nat}

/-- What alone can be done is done next, by `turn?`. -/
theorem turn_of_only (performed : workshop.perform? act = some after)
    (only : ∀ other, other ≠ act → workshop.perform? other = none) : workshop.turn? = some (act, after) := by
  cases next : workshop.turn? with
  | none =>
    have still : workshop.act? = none := by rw [← map_snd_turn?, next, Option.map_none]
    rw [act_eq_none_iff.1 still act] at performed
    cases performed
  | some found =>
    obtain ⟨other, result⟩ := found
    have done := perform_of_turn next
    by_cases same : other = act
    · subst same
      rw [Option.some.inj (done.symm.trans performed)]
    · rw [only other same] at done
      cases done

/-- Whoever has something in hand goes on with it first, since `acts` begins with the hands. -/
theorem turn_of_work (performed : workshop.work? 0 = some after) : workshop.turn? = some (.work 0, after) := by
  simp [turn?, acts, perform?, performed]

/-- A datagram has come to an input where a worker was idle, and nothing else was to be done: `turn?` takes it. -/
theorem turn_of_waiting {input : Input} (resting : workshop.Resting) (senders : workshop.outgoing.senders = [])
    (found : workshop.inputs[index]? = some input) (idle : 0 < input.idle) (datagram : Datagram)
    (monitor : Monitor) :
    let arrived : Workshop := { workshop with
      inputs := workshop.inputs.set index { input with intake.waiting := input.intake.waiting ++ [datagram] }
      monitor }
    ∃ taken : Workshop, arrived.turn? = some (.take index, taken)
      ∧ taken.hands = [⟨index, .datagram input.protocol datagram⟩] ∧ taken.store = workshop.store := by
  intro arrived
  have still := act_eq_none_iff.2 resting
  have inside := (List.getElem?_eq_some_iff.1 found).1
  have empty : input.intake.waiting = [] := waiting_of_act_none still found idle
  have hands : arrived.hands = [] := resting.hands
  have there : arrived.inputs[index]? = some { input with intake.waiting := [datagram] } := by
    simp only [arrived, List.getElem?_set_self inside, empty, List.nil_append]
  let taken : Workshop := { arrived with
    inputs := arrived.inputs.set index { input with intake.waiting := [], idle := input.idle - 1 }
    hands := [⟨index, .datagram input.protocol datagram⟩] }
  have performed : arrived.perform? (.take index) = some taken := by
    simp only [perform?, take?, there, Nat.ne_of_gt idle, if_false, Intake.pop?, hands, List.nil_append, taken]
  have only : ∀ other, other ≠ .take index → arrived.perform? other = none := by
    intro other apart
    cases other with
    | take place =>
      have elsewhere : index ≠ place := fun same => apart (congrArg Act.take same.symm)
      cases attempt : arrived.take? place with
      | none => exact attempt
      | some after =>
        obtain ⟨before, _, _, was, ready, popped, -⟩ := take_eq_some attempt
        simp only [arrived, List.getElem?_set_ne elsewhere] at was
        rw [Intake.pop?, waiting_of_act_none still was ready] at popped
        cases popped
    | work position => simp only [perform?, work?, hands, List.getElem?_nil]
    | send position => simp only [perform?, send?, Outgoing.send?, arrived, senders, List.getElem?_nil]
  exact ⟨taken, turn_of_only performed only, rfl, rfl⟩

end Workshop

namespace Ledger

variable {ledger : Ledger} {index : Nat} {datagram : Datagram}

/-- What is written down stays written down: `accepted` and `decoded` only grow. -/
theorem isPrefix_step (ledger : Ledger) (event : Event) :
    ledger.accepted <+: (ledger.step event).accepted ∧ ledger.decoded <+: (ledger.step event).decoded := by
  cases event with
  | start network =>
    simp only [step]
    split <;> exact ⟨List.prefix_rfl, List.prefix_rfl⟩
  | arrive index datagram =>
    simp only [step]
    split
    · exact ⟨List.prefix_append _ _, List.prefix_rfl⟩
    · exact ⟨List.prefix_rfl, List.prefix_rfl⟩
  | inject record =>
    simp only [step]
    split <;> exact ⟨List.prefix_rfl, List.prefix_rfl⟩
  | receive =>
    simp only [step]
    split <;> exact ⟨List.prefix_rfl, List.prefix_rfl⟩
  | act act =>
    simp only [step]
    split
    · exact ⟨List.prefix_rfl, List.prefix_append _ _⟩
    · exact ⟨List.prefix_rfl, List.prefix_rfl⟩

theorem isPrefix_run (ledger : Ledger) (events : List Event) :
    ledger.accepted <+: (ledger.run events).accepted ∧ ledger.decoded <+: (ledger.run events).decoded := by
  induction events generalizing ledger with
  | nil => exact ⟨List.prefix_rfl, List.prefix_rfl⟩
  | cons event others ih =>
    obtain ⟨accepted, decoded⟩ := ledger.isPrefix_step event
    obtain ⟨acceptedLater, decodedLater⟩ := ih (ledger.step event)
    exact ⟨accepted.trans acceptedLater, decoded.trans decodedLater⟩

/-- Where nothing else is to be done, a datagram that comes to an idle worker is decoded by it in its `settling`, as
what its input is set up to be taken for, and with the templates that are known. -/
theorem decoded_of_idle {input : Input} (resting : ledger.collector.workshop.Resting)
    (senders : ledger.collector.workshop.outgoing.senders = [])
    (found : ledger.collector.workshop.inputs[index]? = some input) (idle : 0 < input.idle)
    (taken : (ledger.collector.arrive index datagram).1 = .taken) :
    let arrived := ledger.step (.arrive index datagram)
    let outcome := (datagram.decode input.protocol ledger.collector.workshop.store).1
    ledger.decoded ++ [⟨index, datagram, outcome⟩]
      <+: (arrived.run (arrived.collector.workshop.settling.map .act)).decoded := by
  intro arrived outcome
  rcases ledger.collector.arrive_cases index datagram with
    ⟨same, -, there, -, answered⟩ | ⟨answer, monitor, refused, answered⟩
  · obtain rfl := Option.some.inj (there.symm.trans found)
    have shop : arrived.collector = (ledger.collector.arrive index datagram).2 :=
      ledger.collector_step_arrive index datagram
    have silent : arrived.decoded = ledger.decoded := by simp only [arrived, step, answered]
    obtain ⟨grasping, first, hands, store⟩ := Workshop.turn_of_waiting resting senders found idle datagram
      (ledger.collector.workshop.monitor.add (.received index) 1)
    rw [answered] at shop
    have first : arrived.collector.workshop.turn? = some (.take index, grasping) := by
      rw [shop]
      exact first
    have work : grasping.work? 0 = some (grasping.decode 0 index same.protocol datagram) := by
      simp only [Workshop.work?, hands, List.getElem?_cons_zero]
    have second := Workshop.turn_of_work work
    rw [Workshop.settling_of_turn_some first, Workshop.settling_of_turn_some second]
    -- The first two acts are known, and what comes behind them is written down behind.
    have taking := step_act (Workshop.perform_of_turn first)
    have working : (arrived.step (.act (.take index))).collector.workshop.perform? (.work 0)
        = some (grasping.decode 0 index same.protocol datagram) := by
      rw [taking]
      exact work
    have come : ((arrived.step (.act (.take index))).step (.act (.work 0))).decoded
        = ledger.decoded ++ [⟨index, datagram, outcome⟩] := by
      rw [step_act working, taking]
      simp only [Workshop.decoding?, hands, List.getElem?_cons_zero, store, silent, Option.toList_none,
        Option.toList_some, List.append_nil, outcome]
    rw [← come]
    exact (isPrefix_run _ _).2
  · rw [answered] at taken
    exact absurd taken refused

theorem accepted_of_taken (taken : (ledger.collector.arrive index datagram).1 = .taken) :
    (ledger.step (.arrive index datagram)).accepted = ledger.accepted ++ [(index, datagram)] := by
  rcases ledger.collector.arrive_cases index datagram with ⟨_, -, -, -, answered⟩ | ⟨_, _, refused, answered⟩
  · simp only [step, answered]
  · rw [answered] at taken
    exact absurd taken refused

/-- Once the workshop is `Resting`, and there is a place for a record, whatever was taken has been decoded: by
`Resting.relaxed` no datagram waits any more, and `Custody` says where it went. -/
theorem Sound.decoded_of_taken {size : Nat} (sound : ledger.Sound)
    (fits : ledger.collector.workshop.outgoing.Fits size)
    (taken : (ledger.collector.arrive index datagram).1 = .taken) (later : List Event) :
    let last := (ledger.step (.arrive index datagram)).run later
    last.collector.workshop.Resting → last.waiting.length < size →
      ledger.accepted ++ [(index, datagram)] <+~ last.decoded.map Decoding.arrival := by
  intro last resting place
  have lastFits := (kept_fits size).run ((kept_fits size).step fits (.arrive index datagram)) later
  have free : last.collector.workshop.outgoing.senders = [] := by
    apply resting.senders
    rw [lastFits.capacity]
    exact place
  obtain ⟨custody, -⟩ :=
    ((sound.step (.arrive index datagram)).run later).finished (Workshop.act_eq_none_iff.2 resting) free
  rw [← accepted_of_taken taken]
  exact (isPrefix_run _ later).1.sublist.subperm.trans custody.symm.subperm

/-- Nothing more has to come from outside: when the workers act and the consumer receives for long enough, everyone
rests and the queue is empty. -/
theorem Sound.exists_run_emptied {ledger : Ledger} (sound : ledger.Sound) :
    ∃ later, (∀ event ∈ later, event.isOnward = true)
      ∧ (ledger.run later).collector.workshop.Resting ∧ (ledger.run later).waiting = [] := by
  cases next : ledger.collector.workshop.turn? with
  | some found =>
    obtain ⟨act, after⟩ := found
    have performed := Workshop.perform_of_turn next
    -- Acts shorten the backlog or what is pending, and where no act is left a reception shortens the second.
    have less : Prod.Lex (· < ·) (· < ·)
        ((ledger.step (.act act)).collector.workshop.backlog, (ledger.step (.act act)).collector.workshop.pending)
        (ledger.collector.workshop.backlog, ledger.collector.workshop.pending) := by
      rw [step_act performed]
      exact Workshop.perform_less performed
    obtain ⟨later, onward, emptied⟩ := Sound.exists_run_emptied (sound.step (.act act))
    exact ⟨.act act :: later, List.forall_mem_cons.2 ⟨rfl, onward⟩, emptied⟩
  | none =>
    have still : ledger.collector.workshop.act? = none := by
      rw [← Workshop.map_snd_turn?, next, Option.map_none]
    cases waits : ledger.waiting with
    | nil => exact ⟨[], List.forall_mem_nil _, Workshop.act_eq_none_iff.1 still, waits⟩
    | cons record others =>
      have received : ledger.collector.receive = (.record record, (ledger.step .receive).collector) := by
        rw [collector_step_receive]
        rw [waiting] at waits
        simp [Collector.receive, sound.unhindered.receiving, Outgoing.pop?, waits]
      have less : Prod.Lex (· < ·) (· < ·)
          ((ledger.step .receive).collector.workshop.backlog, (ledger.step .receive).collector.workshop.pending)
          (ledger.collector.workshop.backlog, ledger.collector.workshop.pending) :=
        Prod.lex_def.2 (.inr (Collector.receive_less received))
      obtain ⟨later, onward, emptied⟩ := Sound.exists_run_emptied (sound.step .receive)
      exact ⟨.receive :: later, List.forall_mem_cons.2 ⟨rfl, onward⟩, emptied⟩
termination_by (ledger.collector.workshop.backlog, ledger.collector.workshop.pending)
decreasing_by all_goals exact less

/-- Until the collector is stopped, and while the consumer stays, it is all in order: the ledger is `Sound`, and the
collector `Fitted` to its setup. -/
theorem sound_course {setup : Setup} {collector : Collector} (accepted : Collector.build setup = .ok collector)
    {moves : List Move} (running : .stop ∉ moves) (stays : .dropReceiver ∉ moves) :
    ((start collector).course moves).Sound ∧ ((start collector).course moves).collector.Fitted setup := by
  obtain ⟨events, ran⟩ := (start collector).course_eq_run running stays
  have begun := sound_start accepted
  rw [ran]
  exact ⟨begun.run events, fitted_run (fitted_start accepted) begun events⟩

end Ledger

/-! ## Healthy collectors -/

theorem Collector.Attended.fst_arrive {setup : Setup} {collector : Collector} (attended : collector.Attended setup)
    (started : collector.phase = .started) {index : Nat} {input : Input}
    (found : collector.workshop.inputs[index]? = some input) (datagram : Datagram) :
    (collector.arrive index datagram).1 = if input.intake.hasRoom then .taken else .dropped := by
  have bound : ¬ collector.addresses.length ≤ index := by
    have inside := (List.getElem?_eq_some_iff.1 found).1
    rw [attended.complete started] at inside
    rw [attended.addresses started]
    omega
  unfold Collector.arrive
  rw [if_neg bound, if_pos started, found]
  cases room : input.intake.hasRoom <;> simp [Intake.offer, room]

/-- Nobody waits for a place at a healthy collector that is `Resting`: either there is one, or nobody receives any
more. -/
theorem Collector.Attended.senders_of_healthy {setup : Setup} {collector : Collector}
    (attended : collector.Attended setup) (passes : setup.check = .ok ())
    (fits : collector.workshop.outgoing.Fits setup.outgoingQueueSize.toNat) (healthy : collector.health = .healthy)
    (resting : collector.workshop.Resting) : collector.workshop.outgoing.senders = [] := by
  obtain ⟨started, room⟩ := health_eq_healthy_iff.1 healthy
  by_cases receiving : collector.workshop.outgoing.receiving = true
  · have sending : collector.workshop.outgoing.sending = true := attended.staged.sending.2 (by simp [started])
    have length := resting.length (by simp [Outgoing.isOpen, receiving, sending]) fits
    have size := Setup.outgoingQueueSize_pos passes
    rw [attended.same, length] at room
    apply resting.senders
    rw [fits.capacity]
    omega
  · exact attended.deserted (Bool.not_eq_true _ ▸ receiving)

/-- Whatever happens to a collector of a `Setup` that passes: if its `health` is `healthy` then, it runs. As long as
the consumer has stayed, every input has all of its workers. `Collector.arrive` takes a datagram where an input has a
worker and a place for it, and nowhere else. If the workshop is `Resting`, that datagram is decoded by its `settling`
alone. Otherwise, if the consumer stays, it has been decoded, with all that came before it, as soon as the workshop is
`Resting` with a place for a record, and events that are `Event.isOnward` are enough to get there. -/
theorem collector_health {setup : Setup} {collector : Collector}
    (accepted : Collector.build setup = .ok collector) {moves : List Move}
    (healthy : ((Ledger.start collector).course moves).collector.health = .healthy) :
    let ledger := (Ledger.start collector).course moves
    let now := ledger.collector
    let shop := now.workshop
    now.phase = .started ∧ .stop ∉ moves
      ∧ ∀ index made, setup.inputs[index]? = some made → ∃ input, shop.inputs[index]? = some input
        ∧ (.dropReceiver ∉ moves →
            shop.workersOf index = made.decodeWorkers.toNat ∧ 0 < made.decodeWorkers.toNat)
        ∧ ∀ datagram,
            ((now.arrive index datagram).1 = .taken
              ↔ 0 < shop.workersOf index ∧ input.intake.length < made.queueSize.toNat)
            ∧ ((now.arrive index datagram).1 = .taken →
                let arrived := ledger.step (.arrive index datagram)
                let outcome := (datagram.decode made.protocol shop.store).1
                (shop.Resting → ledger.decoded ++ [⟨index, datagram, outcome⟩]
                  <+: (arrived.run (arrived.collector.workshop.settling.map .act)).decoded)
                ∧ (.dropReceiver ∉ moves →
                    (∀ later, (arrived.run later).collector.workshop.Resting →
                      (arrived.run later).waiting.length < setup.outgoingQueueSize.toNat →
                      ledger.accepted ++ [(index, datagram)] <+~ (arrived.run later).decoded.map Decoding.arrival)
                    ∧ ∃ later, (∀ event ∈ later, event.isOnward = true)
                      ∧ ledger.accepted ++ [(index, datagram)]
                        <+~ (arrived.run later).decoded.map Decoding.arrival)) := by
  intro ledger now shop
  obtain ⟨passes, -⟩ := Collector.build_eq_ok accepted
  have attended : now.Attended setup := (Ledger.kept_attended passes).course (Ledger.attended_start accepted) moves
  have fits : shop.outgoing.Fits setup.outgoingQueueSize.toNat :=
    (Ledger.kept_fits _).course (Ledger.fits_start accepted) moves
  obtain ⟨started, -⟩ := Collector.health_eq_healthy_iff.1 healthy
  have running : .stop ∉ moves := by
    intro stopped
    have phase := ((Ledger.start collector).phase_course_eq_stopped_iff moves).2 (.inr stopped)
    exact absurd (started.symm.trans phase) (by simp)
  refine ⟨started, running, ?_⟩
  intro index made asked
  have inside : index < shop.inputs.length := by
    rw [attended.complete started]
    exact (List.getElem?_eq_some_iff.1 asked).1
  obtain ⟨input, found⟩ : ∃ input, shop.inputs[index]? = some input := ⟨_, List.getElem?_eq_getElem inside⟩
  obtain ⟨same, asked', kept⟩ := attended.inputs index input found
  obtain rfl : made = same := Option.some.inj (asked.symm.trans asked')
  refine ⟨input, found, ?_, ?_⟩
  · intro stays
    obtain ⟨other, asked', -, workers⟩ := (Ledger.sound_course accepted running stays).2.inputs found
    obtain rfl : made = other := Option.some.inj (asked.symm.trans asked')
    exact ⟨workers, Setup.decodeWorkers_pos passes made (List.mem_of_getElem? asked)⟩
  · intro datagram
    have takes : (now.arrive index datagram).1 = .taken
        ↔ 0 < shop.workersOf index ∧ input.intake.length < made.queueSize.toNat := by
      rw [attended.fst_arrive started found, ← kept.hasRoom_iff]
      cases input.intake.hasRoom <;> simp
    refine ⟨takes, fun taken => ⟨?_, ?_⟩⟩
    · intro resting
      have senders := attended.senders_of_healthy passes fits healthy resting
      have idle : 0 < input.idle := by
        rw [Workshop.idle_of_act_none (Workshop.act_eq_none_iff.2 resting) senders found]
        exact (takes.1 taken).1
      have decoded := Ledger.decoded_of_idle resting senders found idle taken
      rw [kept.protocol] at decoded
      exact decoded
    · intro stays
      have sound := (Ledger.sound_course accepted running stays).1
      have decoded := sound.decoded_of_taken fits taken
      refine ⟨decoded, ?_⟩
      obtain ⟨later, onward, resting, empty⟩ := (sound.step (.arrive index datagram)).exists_run_emptied
      refine ⟨later, onward, decoded later resting ?_⟩
      rw [empty]
      exact Setup.outgoingQueueSize_pos passes

/-- One datagram to a collector that has just been started: it is healthy, and the one worker decodes it. -/
theorem collector_health_just_started :
    let setup : Setup := ⟨[⟨.netflow, .v4 ⟨127, 0, 0, 1⟩ 0, 1, 100, 1⟩], 10, 1⟩
    let single : Datagram := ⟨.v4 ⟨192, 0, 2, 1⟩ 9995, 0, [0, 5, 0, 1] ++ List.replicate 68 0⟩
    let moves : List Move := [.event (.start fun _ address => .ok address)]
    let ledger := (Ledger.start (.create setup)).course moves
    let arrived := ledger.step (.arrive 0 single)
    Collector.build setup = .ok (.create setup) ∧ ledger.collector.health = .healthy
      ∧ .dropReceiver ∉ moves ∧ ledger.collector.workshop.Resting
      ∧ ledger.collector.workshop.workersOf 0 = 1
      ∧ (ledger.collector.arrive 0 single).1 = .taken
      ∧ [⟨0, single, (single.decode .netflow ∅).1⟩]
          <+: (arrived.run (arrived.collector.workshop.settling.map .act)).decoded := by
  intro setup single moves ledger arrived
  have built : Collector.build setup = .ok (.create setup) := rfl
  have stays : .dropReceiver ∉ moves := by simp [moves]
  have healthy : ledger.collector.health = .healthy := by decide +kernel
  have resting : ledger.collector.workshop.Resting := by
    rw [← Workshop.act_eq_none_iff, ← Option.isNone_iff_eq_none]
    decide +kernel
  have taken : (ledger.collector.arrive 0 single).1 = .taken := by decide +kernel
  have silent : ledger.decoded = [] := rfl
  have untaught : ledger.collector.workshop.store = ∅ := rfl
  have begun : (Ledger.start (.create setup)).course moves = ledger := rfl
  have law := @collector_health setup (.create setup) built moves
  clear_value ledger
  rw [begun] at law
  obtain ⟨-, -, inputs⟩ := law healthy
  obtain ⟨input, -, staffed, datagrams⟩ := inputs 0 _ rfl
  obtain ⟨-, decodes⟩ := datagrams single
  have decoded := (decodes taken).1 resting
  rw [silent, untaught] at decoded
  exact ⟨built, healthy, stays, resting, (staffed stays).1, taken, decoded⟩

/-- Health does not tell that workers have ended. The consumer is gone, the only worker has ended at the first record
it had to send, and the collector is `healthy`: it has no one at its input, where nothing waits, and drops what
comes. -/
theorem healthy_without_workers :
    let setup : Setup := ⟨[⟨.netflow, .v4 ⟨127, 0, 0, 1⟩ 0, 1, 100, 1⟩], 10, 1⟩
    let single : Datagram := ⟨.v4 ⟨192, 0, 2, 1⟩ 9995, 0, [0, 5, 0, 1] ++ List.replicate 68 0⟩
    let moves : List Move := [.event (.start fun _ address => .ok address), .dropReceiver,
      .event (.arrive 0 single), .event (.act (.take 0)), .event (.act (.work 0)), .event (.act (.work 0))]
    let ledger := (Ledger.start (.create setup)).course moves
    let shop := ledger.collector.workshop
    Collector.build setup = .ok (.create setup) ∧ ledger.collector.health = .healthy
      ∧ ledger.collector.phase = .started ∧ shop.workersOf 0 = 0
      ∧ shop.inputs.map (·.intake.length) = [0]
      ∧ (ledger.collector.arrive 0 single).1 = .dropped := by
  decide +kernel

end FlowCollector
