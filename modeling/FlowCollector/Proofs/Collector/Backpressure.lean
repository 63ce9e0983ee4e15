import FlowCollector.Proofs.Collector.Course
import FlowCollector.Proofs.Collector.Delivery
import FlowCollector.Proofs.Intake

/-!
# Backpressure

A consumer that is slow fills the outgoing queue, then each worker's hands, then the intake queues, and only then is
a datagram dropped. Read backwards: while there is a free place in the outgoing queue, and nobody is about to act,
nothing is held back anywhere.
-/

set_option autoImplicit false

namespace FlowCollector

open scoped List

/-! ## Queues keep to their size -/

/-- An input whose `Intake` is open, and not longer than its `InputSetup` asked for. -/
structure Input.Made (made : InputSetup) (input : Input) : Prop where
  opened : input.intake.reception = .opened
  capacity : input.intake.capacity = made.queueSize.toNat
  fits : input.intake.length ≤ made.queueSize.toNat

/-- The outgoing queue has so many places, and no more records. `kept_fits` carries this through every move. -/
structure Outgoing.Fits (size : Nat) (outgoing : Outgoing) : Prop where
  capacity : outgoing.capacity = size
  within : outgoing.waiting.length ≤ size

namespace Workshop

variable {workshop after : Workshop} {act : Act} {index : Nat}

theorem made_perform (receiving : workshop.outgoing.receiving = true)
    (h : workshop.perform? act = some after) {input : Input} (found : after.inputs[index]? = some input) :
    ∃ before, workshop.inputs[index]? = some before ∧ ∀ made, before.Made made → input.Made made := by
  cases act with
  | take taken =>
    obtain ⟨before, datagram, intake, there, -, popped, rfl⟩ := take_eq_some h
    by_cases same : taken = index
    · subst same
      obtain ⟨waits, rest⟩ := Intake.pop_eq_some popped
      rw [List.getElem?_set_self (List.getElem?_eq_some_iff.1 there).1] at found
      obtain rfl := Option.some.inj found
      refine ⟨before, there, ?_⟩
      intro made fits
      have shorter := fits.fits
      simp only [Intake.length, waits, List.length_cons] at shorter
      rw [rest]
      exact ⟨fits.opened, fits.capacity, by simp only [Intake.length]; omega⟩
    · rw [List.getElem?_set_ne same] at found
      exact ⟨input, found, fun _ fits => fits⟩
  | work position =>
    rcases work_eq_some h with ⟨_, _, _, -, rfl⟩ | ⟨owner, -, rfl⟩ | ⟨_, _, _, -, rfl⟩
    · exact ⟨input, found, fun _ fits => fits⟩
    · simp only [release, letGo, List.getElem?_modify] at found
      obtain ⟨before, there, rfl⟩ := Option.map_eq_some_iff.1 found
      refine ⟨before, there, ?_⟩
      intro made fits
      split
      · exact ⟨fits.opened, fits.capacity, fits.fits⟩
      · exact fits
    · rw [ask_letGo receiving] at found
      exact ⟨input, found, fun _ fits => fits⟩
  | send position =>
    obtain ⟨_, -, -, rfl⟩ := send_eq_some h
    exact ⟨input, found, fun _ fits => fits⟩

theorem fits_perform {size : Nat} (h : workshop.perform? act = some after)
    (fits : workshop.outgoing.Fits size) : after.outgoing.Fits size := by
  obtain ⟨capacity, within⟩ := fits
  cases act with
  | take _ =>
    obtain ⟨_, _, _, -, -, -, rfl⟩ := take_eq_some h
    exact ⟨capacity, within⟩
  | work position =>
    rcases work_eq_some h with ⟨_, _, _, -, rfl⟩ | ⟨_, -, rfl⟩ | ⟨_, _, _, -, rfl⟩
    · exact ⟨capacity, within⟩
    · exact ⟨capacity, within⟩
    · unfold ask
      split <;> exact ⟨capacity, within⟩
  | send position =>
    obtain ⟨_, -, given, rfl⟩ := send_eq_some h
    refine ⟨capacity, ?_⟩
    rw [Outgoing.free, capacity] at given
    simp only [Outgoing.put, List.length_append, List.length_singleton]
    omega

/-! ## At rest -/

theorem Resting.hands (h : workshop.Resting) : workshop.hands = [] :=
  hands_of_act_none (act_eq_none_iff.2 h)

/-- At rest, whoever waits with a record finds no place: else `Act.send` could be done. -/
theorem Resting.free (h : workshop.Resting) (waits : workshop.outgoing.senders ≠ []) :
    workshop.outgoing.free = 0 := by
  obtain ⟨sender, others, senders⟩ := List.exists_cons_of_ne_nil waits
  have first := h (.send 0)
  by_contra room
  simp [perform?, send?, Outgoing.send?, senders, Nat.pos_of_ne_zero room] at first

/-- At rest, with a place left, nobody waits for one. -/
theorem Resting.senders (h : workshop.Resting)
    (room : workshop.outgoing.waiting.length < workshop.outgoing.capacity) : workshop.outgoing.senders = [] := by
  by_contra waits
  have full := h.free waits
  rw [Outgoing.free] at full
  omega

/-- At rest, all places that are taken have a record in them, so that `Outgoing.length` counts records alone. -/
theorem Resting.length {size : Nat} (h : workshop.Resting) (opened : workshop.outgoing.isOpen = true)
    (fits : workshop.outgoing.Fits size) :
    workshop.outgoing.length = workshop.outgoing.waiting.length := by
  obtain ⟨capacity, within⟩ := fits
  rw [Outgoing.length, if_pos opened]
  by_cases free : workshop.outgoing.senders = []
  · simp only [free, List.length_nil]
    omega
  · -- Who waits asks for a place, but then there is none that could be promised.
    have full := h.free free
    rw [Outgoing.free] at full
    omega

/-- With a place left in the outgoing queue, no worker holds a record, and where a worker is (`workersOf`), no
datagram waits: it would be taken next. -/
theorem Resting.relaxed (h : workshop.Resting)
    (staffed : ∀ index < workshop.inputs.length, 0 < workshop.workersOf index)
    (room : workshop.outgoing.waiting.length < workshop.outgoing.capacity) :
    workshop.held = [] ∧ ∀ input ∈ workshop.inputs, input.intake.waiting = [] := by
  have still := act_eq_none_iff.2 h
  have senders := h.senders room
  refine ⟨by rw [held, h.hands, senders]; rfl, ?_⟩
  intro input there
  obtain ⟨index, found⟩ := List.getElem?_of_mem there
  have worker := staffed index (List.getElem?_eq_some_iff.1 found).1
  rw [← idle_of_act_none still senders found] at worker
  exact waiting_of_act_none still found worker

/-- Where datagrams wait for workers, all workers of that input are among the `senders`, and these find no place. -/
theorem Resting.blocked (h : workshop.Resting) {input : Input}
    (found : workshop.inputs[index]? = some input) (waits : input.intake.waiting ≠ [])
    (staffed : 0 < workshop.workersOf index) :
    workshop.outgoing.senders.countP (·.input == index) = workshop.workersOf index
      ∧ workshop.outgoing.free = 0 := by
  have busy : input.idle = 0 := by
    by_contra idle
    exact waits (waiting_of_act_none (act_eq_none_iff.2 h) found (Nat.pos_of_ne_zero idle))
  have all : workshop.outgoing.senders.countP (·.input == index) = workshop.workersOf index := by
    simp only [workersOf, found, busy, h.hands, Option.map_some, Option.getD_some, List.countP_nil,
      Nat.add_zero, Nat.zero_add]
  refine ⟨all, h.free ?_⟩
  intro nobody
  rw [nobody, List.countP_nil] at all
  omega

end Workshop

/-! ## As it was set up -/

/-- A collector whose inputs are `Input.Made` as its setup asks, each with the workers it was given. -/
structure Collector.Fitted (setup : Setup) (collector : Collector) : Prop where
  same : collector.setup = setup
  inputs : ∀ {index input}, collector.workshop.inputs[index]? = some input →
    ∃ made, setup.inputs[index]? = some made ∧ input.Made made
      ∧ collector.workshop.workersOf index = made.decodeWorkers.toNat

namespace Collector.Change

variable {collector after : Collector} {event : Event}

theorem fits {size : Nat} (change : collector.Change event after)
    (fits : collector.workshop.outgoing.Fits size) : after.workshop.outgoing.Fits size := by
  obtain ⟨capacity, within⟩ := fits
  cases change with
  | injected room =>
    refine ⟨capacity, ?_⟩
    simp only [Outgoing.hasRoom, capacity, decide_eq_true_eq] at room
    simp only [Outgoing.put, List.length_append, List.length_singleton]
    omega
  | received waits =>
    rw [waits, List.length_cons] at within
    exact ⟨capacity, Nat.le_of_succ_le within⟩
  | acted performed => exact Workshop.fits_perform performed ⟨capacity, within⟩
  | _ => exact ⟨capacity, within⟩

theorem fitted {setup : Setup} (change : collector.Change event after) (sound : collector.Unhindered)
    (fitted : collector.Fitted setup) : after.Fitted setup := by
  obtain ⟨same, inputs⟩ := fitted
  cases change with
  | started created =>
    obtain ⟨-, hands, senders⟩ := sound.unstarted created
    refine ⟨same, ?_⟩
    intro index input found
    simp only [same, List.getElem?_map] at found
    obtain ⟨made, there, rfl⟩ := Option.map_eq_some_iff.1 found
    refine ⟨made, there, ⟨rfl, rfl, Nat.zero_le _⟩, ?_⟩
    simp [Workshop.workersOf, same, there, hands, senders, Input.start]
  | @taken index datagram before _ there room =>
    refine ⟨same, ?_⟩
    intro other input found
    have workersOf := Workshop.workersOf_set there
      { before with intake.waiting := before.intake.waiting ++ [datagram] } rfl other
    by_cases here : index = other
    · subst here
      obtain ⟨made, asked, ⟨opened, places, -⟩, workers⟩ := inputs there
      obtain ⟨-, less⟩ := Intake.hasRoom_iff.1 room
      simp only [List.getElem?_set_self (List.getElem?_eq_some_iff.1 there).1, Option.some.injEq] at found
      subst found
      refine ⟨made, asked, ⟨opened, places, ?_⟩, workersOf.trans workers⟩
      simp only [Intake.length, List.length_append, List.length_singleton] at less ⊢
      omega
    · simp only [List.getElem?_set_ne here] at found
      obtain ⟨made, asked, fit, workers⟩ := inputs found
      exact ⟨made, asked, fit, workersOf.trans workers⟩
  | acted performed =>
    refine ⟨same, ?_⟩
    intro index input found
    obtain ⟨before, there, keeps⟩ := Workshop.made_perform sound.receiving performed found
    obtain ⟨made, asked, fit, workers⟩ := inputs there
    refine ⟨made, asked, keeps made fit, ?_⟩
    rw [← workers]
    exact Workshop.workersOf_perform sound.receiving performed (List.getElem?_eq_some_iff.1 there).1
  | _ => exact ⟨same, inputs⟩

end Collector.Change

/-- Who has been stopped takes no datagram by `Collector.arrive`, and counts none as dropped: there is no input any
more. -/
theorem Collector.not_dropped_of_stopped {collector : Collector} (h : collector.phase = .stopped)
    (index : Nat) (datagram : Datagram) : (collector.arrive index datagram).1 ≠ .dropped := by
  rcases collector.arrive_outcome index datagram with ⟨_, started, -⟩ | ⟨_, -, kept, arrived⟩
  · rw [h] at started
    cases started
  · rw [arrived]
    exact kept

/-- While a consumer is there and nobody has stopped the collector, a datagram is dropped at rest only if there is no
place for anything: its intake is full, all its workers wait with a record, and the outgoing queue is full. -/
theorem Collector.Fitted.full_of_dropped {setup : Setup} {collector : Collector}
    (fitted : collector.Fitted setup) (sound : collector.Unhindered)
    (fits : collector.workshop.outgoing.Fits setup.outgoingQueueSize.toNat)
    (passes : setup.check = .ok ()) (resting : collector.workshop.Resting) {index : Nat}
    {datagram : Datagram} (dropped : (collector.arrive index datagram).1 = .dropped) :
    ∃ made input, setup.inputs[index]? = some made
      ∧ collector.workshop.inputs[index]? = some input
      ∧ input.intake.length = made.queueSize.toNat
      ∧ collector.workshop.outgoing.waiting.length = setup.outgoingQueueSize.toNat
      ∧ collector.workshop.outgoing.senders.countP (·.input == index) = made.decodeWorkers.toNat
      ∧ collector.workshop.outgoing.free = 0 := by
  obtain ⟨-, inputs⟩ := fitted
  obtain ⟨capacity, within⟩ := fits
  rcases collector.arrive_outcome index datagram with
    ⟨input, -, found, ⟨-, arrived⟩ | ⟨full, -⟩⟩ | ⟨answer, -, kept, arrived⟩
  · rw [arrived] at dropped
    cases dropped
  · obtain ⟨made, asked, ⟨opened, places, fit⟩, workers⟩ := inputs found
    have least := Setup.queueSize_pos passes made (List.mem_of_getElem? asked)
    have length : input.intake.length = made.queueSize.toNat := by
      apply Nat.le_antisymm fit
      by_contra room
      rw [Intake.hasRoom_iff.2 ⟨opened, by omega⟩] at full
      cases full
    have waits : input.intake.waiting ≠ [] := by
      intro empty
      rw [Intake.length, empty, List.length_nil] at length
      omega
    obtain ⟨all, none⟩ := resting.blocked found waits
      (sound.staffed index (List.getElem?_eq_some_iff.1 found).1)
    refine ⟨made, input, asked, found, length, ?_, all.trans workers, none⟩
    rw [Outgoing.free] at none
    omega
  · rw [arrived] at dropped
    exact absurd dropped kept

namespace Ledger

variable {setup : Setup} {ledger : Ledger}

theorem fitted_start {collector : Collector} (h : Collector.build setup = .ok collector) :
    (start collector).collector.Fitted setup := by
  obtain ⟨-, rfl⟩ := Collector.build_eq_ok h
  exact ⟨rfl, nofun⟩

theorem fits_start {collector : Collector} (h : Collector.build setup = .ok collector) :
    (start collector).collector.workshop.outgoing.Fits setup.outgoingQueueSize.toNat := by
  obtain ⟨-, rfl⟩ := Collector.build_eq_ok h
  exact ⟨rfl, Nat.zero_le _⟩

/-- The outgoing queue keeps to its size whatever happens, and so after a stop too, when `Outgoing.close` leaves what
waits. -/
theorem kept_fits (size : Nat) : Kept fun ledger => ledger.collector.workshop.outgoing.Fits size where
  step := fun fits event => (change_step _ event).fits fits
  stop := by
    intro ledger fits resting
    obtain ⟨capacity, within⟩ := fits
    rcases Collector.stop_cases resting with ⟨-, stopped⟩ | ⟨-, stopped⟩ | ⟨-, stopped⟩ <;>
      simp only [stopped] <;> exact ⟨capacity, within⟩
  dropReceiver := fun fits => ⟨fits.capacity, Nat.zero_le _⟩

theorem fitted_run (fitted : ledger.collector.Fitted setup) (sound : ledger.Sound) (events : List Event) :
    (ledger.run events).collector.Fitted setup := by
  induction events generalizing ledger with
  | nil => exact fitted
  | cons event others ih => exact ih ((change_step _ event).fitted sound.unhindered fitted) (sound.step event)

end Ledger

/-- Whatever happens to a collector of a `Setup` that passes while its consumer is there: no queue is longer than it
was set up to be, every input has the workers it was given, and what each worker holds is what is left of one
datagram's records. When the workshop is `Resting`, a free place in the outgoing queue means that no worker holds a
record and no datagram waits; so `Collector.arrive` drops the next datagram only if the outgoing queue is full, the
intake queue of its input is full, and all decode workers of that input wait for a place. -/
theorem collector_backpressure {setup : Setup} {collector : Collector}
    (accepted : Collector.build setup = .ok collector) {moves : List Move}
    (stays : .dropReceiver ∉ moves) :
    let ledger := (Ledger.start collector).course moves
    let shop := ledger.collector.workshop
    let size := setup.outgoingQueueSize.toNat
    shop.outgoing.length ≤ size ∧ shop.outgoing.waiting.length ≤ size
      ∧ (∀ index input, shop.inputs[index]? = some input → ∃ made, setup.inputs[index]? = some made
          ∧ input.intake.length ≤ made.queueSize.toNat ∧ shop.workersOf index = made.decodeWorkers.toNat)
      ∧ (∃ shares : List Share, shares.map Share.whole = ledger.records
          ∧ nonempty ledger.held <+~ nonempty (shares.map Share.unsent))
      ∧ (shop.Resting →
          (.stop ∉ moves → shop.outgoing.length = shop.outgoing.waiting.length)
          ∧ (shop.outgoing.length < size →
              ledger.held = [] ∧ ∀ input ∈ shop.inputs, input.intake.waiting = [])
          ∧ ∀ index datagram, (ledger.collector.arrive index datagram).1 = .dropped →
              ∃ made input, setup.inputs[index]? = some made ∧ shop.inputs[index]? = some input
                ∧ shop.outgoing.length = size ∧ input.intake.length = made.queueSize.toNat
                ∧ shop.outgoing.senders.countP (·.input == index) = made.decodeWorkers.toNat
                ∧ ∀ position, shop.send? position = none) := by
  intro ledger shop size
  obtain ⟨passes, -⟩ := Collector.build_eq_ok accepted
  have fits : shop.outgoing.Fits size :=
    (Ledger.kept_fits size).course (Ledger.fits_start accepted) moves
  by_cases stopped : .stop ∈ moves
  · -- After a stop there are no inputs and no workers left, and nothing counts as waiting for a place.
    have receiving : (Ledger.start collector).collector.workshop.outgoing.receiving = true :=
      (Collector.Unhindered.build accepted).receiving
    have ended : ledger.collector.Ended :=
      Ledger.ended_course (Ledger.staged_start accepted) receiving stopped stays
    have nothing : ledger.held = [] := ended.held
    have nowhere : shop.inputs = [] := ended.inputs
    have phase : ledger.collector.phase = .stopped :=
      (Ledger.phase_course_eq_stopped_iff _ moves).2 (.inr stopped)
    refine ⟨?_, fits.within, ?_, ⟨ledger.records.map fun records => ⟨records, []⟩, ?_, ?_⟩, ?_⟩
    · rw [ended.length]
      exact Nat.zero_le _
    · intro index input found
      rw [nowhere] at found
      cases found
    · simp [Function.comp_def, Share.whole]
    · rw [nothing]
      exact List.nil_subperm
    · intro _
      refine ⟨fun running => absurd stopped running, ?_, ?_⟩
      · intro _
        refine ⟨nothing, ?_⟩
        intro input there
        rw [nowhere] at there
        cases there
      · intro index datagram dropped
        exact absurd dropped (Collector.not_dropped_of_stopped phase index datagram)
  · -- Until then there were only events, of which each keeps inputs and workers as they were set up.
    obtain ⟨events, ran⟩ := (Ledger.start collector).course_eq_run stopped stays
    have ran : ledger = (Ledger.start collector).run events := ran
    have begun := Ledger.sound_start accepted
    have sound : ledger.Sound := ran ▸ begun.run events
    have fitted : ledger.collector.Fitted setup :=
      ran ▸ Ledger.fitted_run (Ledger.fitted_start accepted) begun events
    have opened : shop.outgoing.isOpen = true := by
      simp [Outgoing.isOpen, shop, sound.unhindered.sending, sound.unhindered.receiving]
    refine ⟨?_, fits.within, ?_, ?_, ?_⟩
    · rw [Outgoing.length, if_pos opened, fits.capacity]
      exact Nat.min_le_left _ _
    · intro index input found
      obtain ⟨made, asked, fit, workers⟩ := fitted.inputs found
      exact ⟨made, asked, fit.fits, workers⟩
    · obtain ⟨shares, whole, -, unsent⟩ := sound.attributed
      exact ⟨shares, whole, unsent.subperm⟩
    · intro resting
      have length := resting.length opened fits
      refine ⟨fun _ => length, ?_, ?_⟩
      · intro room
        rw [length] at room
        apply resting.relaxed sound.unhindered.staffed
        rw [fits.capacity]
        exact room
      · intro index datagram dropped
        obtain ⟨made, input, asked, found, waits, full, workers, none⟩ :=
          fitted.full_of_dropped sound.unhindered fits passes resting dropped
        exact ⟨made, input, asked, found, length.trans full, waits, workers,
          fun position => resting (.send position)⟩

/-- One place in each queue and one worker: a datagram of two records fills the outgoing queue and the worker's hands,
the next one the intake queue, and the third is dropped. -/
theorem collector_backpressure_third_dropped :
    let setup : Setup := ⟨[⟨.netflow, .v4 ⟨127, 0, 0, 1⟩ 0, 1, 1, 1⟩], 1, 1⟩
    let double : Datagram := ⟨.v4 ⟨192, 0, 2, 1⟩ 9995, 0, [0, 5, 0, 2] ++ List.replicate 116 0⟩
    let moves : List Move := [.event (.start fun _ address => .ok address), .event (.arrive 0 double),
      .event (.act (.take 0)), .event (.act (.work 0)), .event (.act (.work 0)),
      .event (.act (.send 0)), .event (.act (.work 0)), .event (.arrive 0 double)]
    let ledger := (Ledger.start (.create setup)).course moves
    let shop := ledger.collector.workshop
    Collector.build setup = .ok (.create setup) ∧ .dropReceiver ∉ moves ∧ shop.Resting
      ∧ (ledger.collector.arrive 0 double).1 = .dropped
      ∧ shop.outgoing.length = 1 ∧ ledger.held.map List.length = [1]
      ∧ ∃ input, shop.inputs[0]? = some input ∧ input.intake.length = 1
          ∧ shop.outgoing.senders.countP (·.input == 0) = 1 := by
  intro setup double moves ledger shop
  have built : Collector.build setup = .ok (.create setup) := rfl
  have stays : .dropReceiver ∉ moves := by simp [moves]
  have resting : shop.Resting := by
    rw [← Workshop.act_eq_none_iff, ← Option.isNone_iff_eq_none]
    decide +kernel
  have dropped : (ledger.collector.arrive 0 double).1 = .dropped := by decide +kernel
  have held : ledger.held.map List.length = [1] := by decide +kernel
  have begun : (Ledger.start (.create setup)).course moves = ledger := rfl
  clear_value ledger
  have law := collector_backpressure built stays
  rw [begun] at law
  obtain ⟨-, -, -, -, atRest⟩ := law
  obtain ⟨-, -, drops⟩ := atRest resting
  obtain ⟨made, input, asked, found, full, waits, blocked, -⟩ := drops 0 double dropped
  obtain rfl := Option.some.inj asked
  exact ⟨built, stays, resting, dropped, full, held, input, found, waits, blocked⟩

end FlowCollector
