import FlowCollector.Proofs.Collector.Ledger
import FlowCollector.Proofs.Collector.Requests

/-!
# What an event changes

`Collector.Change` lists the ways in which a collector can differ after an event. Whatever else was asked changes
nothing, so a property of collectors is kept by every event as soon as it is kept by these few. It says nothing of
what was answered, for which there is a ledger.
-/

set_option autoImplicit false

namespace FlowCollector

/-- What a collector can be after an `Event`. The members that a constructor does not name are those of before, which
is what makes a proof that goes through the cases short. -/
inductive Collector.Change (collector : Collector) : Event → Collector → Prop
  | unchanged {event : Event} : Change collector event collector
  | started {network : Network} {addresses : List SocketAddress} (created : collector.phase = .created) :
      Change collector (.start network) { collector with
        phase := .started
        addresses
        workshop.inputs := collector.setup.inputs.map .start }
  | taken {index : Nat} {datagram : Datagram} {input : Input} (running : collector.phase = .started)
      (found : collector.workshop.inputs[index]? = some input) (room : input.intake.hasRoom = true) :
      Change collector (.arrive index datagram) { collector with
        workshop.inputs := collector.workshop.inputs.set index { input with
          intake.waiting := input.intake.waiting ++ [datagram] }
        workshop.monitor := collector.workshop.monitor.add (.received index) 1 }
  | counted {index : Nat} {datagram : Datagram} {monitor : Monitor} :
      Change collector (.arrive index datagram) { collector with workshop.monitor := monitor }
  | injected {record : FlowRecord} (room : collector.workshop.outgoing.hasRoom = true) :
      Change collector (.inject record) { collector with
        workshop.outgoing := collector.workshop.outgoing.put record }
  | received {record : FlowRecord} {others : List FlowRecord}
      (waits : collector.workshop.outgoing.waiting = record :: others) :
      Change collector .receive { collector with
        workshop.outgoing := { collector.workshop.outgoing with waiting := others } }
  | acted {act : Act} {workshop : Workshop} (performed : collector.workshop.perform? act = some workshop) :
      Change collector (.act act) { collector with workshop }

namespace Ledger

/-! ## What is asked for -/

theorem collector_step_arrive (ledger : Ledger) (index : Nat) (datagram : Datagram) :
    (ledger.step (.arrive index datagram)).collector
      = (ledger.collector.arrive index datagram).2 := by
  simp only [step]
  split
  case _ arrived => rw [arrived]
  case _ arrived => rw [arrived]

theorem collector_step_inject (ledger : Ledger) (record : FlowRecord) :
    (ledger.step (.inject record)).collector = (ledger.collector.inject record).2 := by
  simp only [step]
  split
  case _ injected => rw [injected]
  case _ injected => rw [injected]

theorem collector_step_receive (ledger : Ledger) :
    (ledger.step .receive).collector = ledger.collector.receive.2 := by
  simp only [step]
  split
  case _ received => rw [received]
  case _ received => rw [received]

/-- An act that `Workshop.perform?` can do is written down with what it decodes, if it decodes anything. -/
theorem step_act {ledger : Ledger} {act : Act} {workshop : Workshop}
    (h : ledger.collector.workshop.perform? act = some workshop) :
    ledger.step (.act act) = { ledger with
      collector := { ledger.collector with workshop }
      decoded := ledger.decoded ++ (ledger.collector.workshop.decoding? act).toList } := by
  simp only [step, h]

/-- There are no other ways than those of `Collector.Change`: every step of a ledger is one of them. -/
theorem change_step (ledger : Ledger) (event : Event) :
    ledger.collector.Change event (ledger.step event).collector := by
  cases event with
  | start network =>
    simp only [step]
    cases started : ledger.collector.start network with
    | error _ => exact .unchanged
    | ok _ =>
      obtain ⟨created, _, rfl⟩ := Collector.start_eq_ok started
      exact .started created
  | arrive index datagram =>
    rw [collector_step_arrive]
    rcases ledger.collector.arrive_cases index datagram with
      ⟨input, running, found, room, arrived⟩ | ⟨_, _, -, arrived⟩ <;> rw [arrived]
    · exact .taken running found room
    · exact .counted
  | inject record =>
    rw [collector_step_inject]
    rcases ledger.collector.inject_cases record with ⟨-, room, injected⟩ | ⟨_, -, injected⟩ <;> rw [injected]
    · exact .injected room
    · exact .unchanged
  | receive =>
    rw [collector_step_receive]
    rcases ledger.collector.receive_cases with ⟨_, _, waits, received⟩ | ⟨_, -, received⟩ <;> rw [received]
    · exact .received waits
    · exact .unchanged
  | act act =>
    cases performed : ledger.collector.workshop.perform? act with
    | none =>
      simp only [step, performed]
      exact .unchanged
    | some workshop =>
      rw [step_act performed]
      exact .acted performed

end Ledger

namespace Collector.Change

variable {collector after : Collector} {event : Event}

/-- Only a start that succeeds leads to another phase. A stop does too, but it is a `Move` and no event. -/
theorem phase (change : collector.Change event after) :
    after.phase = collector.phase
      ∨ collector.phase = .created ∧ after.phase = .started ∧ ∃ network, event = .start network := by
  cases change with
  | started created => exact .inr ⟨created, rfl, _, rfl⟩
  | _ => exact .inl rfl

/-- No event makes the consumer come or go, or lets anyone send who could not, so `Outgoing.isOpen` stays. -/
theorem isOpen (change : collector.Change event after) :
    after.workshop.outgoing.receiving = collector.workshop.outgoing.receiving
      ∧ after.workshop.outgoing.sending = collector.workshop.outgoing.sending := by
  cases change with
  | acted performed =>
    obtain ⟨receiving, sending, -⟩ := Workshop.perform_frame performed
    exact ⟨receiving, sending⟩
  | _ => exact ⟨rfl, rfl⟩

end Collector.Change

end FlowCollector
