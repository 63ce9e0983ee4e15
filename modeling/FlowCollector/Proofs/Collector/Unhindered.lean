import FlowCollector.Proofs.Collector.Requests
import FlowCollector.Proofs.Setup

/-!
# Collectors that nobody hinders

A collector of a setup that passes is `Unhindered` until it is stopped or its consumer goes. Requests and acts
keep it so, and in particular every input keeps a worker: workers end only when nobody receives any more.
-/

set_option autoImplicit false

namespace FlowCollector

/-- A collector that has not been stopped, and whose consumer is there. Every input has a worker, by
`Workshop.workersOf`, and each that will be started gets one. -/
structure Collector.Unhindered (collector : Collector) : Prop where
  sending : collector.workshop.outgoing.sending = true
  receiving : collector.workshop.outgoing.receiving = true
  running : collector.phase ≠ .stopped
  /-- Before the start there is nobody to do anything; `Collector.start` makes the inputs with their workers. -/
  unstarted : collector.phase = .created → collector.workshop.inputs = []
    ∧ collector.workshop.hands = [] ∧ collector.workshop.outgoing.senders = []
  staffable : ∀ input ∈ collector.setup.inputs, 0 < input.decodeWorkers.toNat
  staffed : ∀ index < collector.workshop.inputs.length, 0 < collector.workshop.workersOf index

theorem Collector.build_eq_ok {setup : Setup} {collector : Collector}
    (h : Collector.build setup = .ok collector) : setup.check = .ok () ∧ collector = create setup :=
  build_eq_ok_iff.1 h

namespace Collector.Unhindered

variable {collector after : Collector}

theorem build {setup : Setup} (h : Collector.build setup = .ok collector) : collector.Unhindered := by
  obtain ⟨passes, rfl⟩ := build_eq_ok h
  exact ⟨rfl, rfl, nofun, fun _ => ⟨rfl, rfl, rfl⟩, Setup.decodeWorkers_pos passes, nofun⟩

theorem start {network : Network} (sound : collector.Unhindered)
    (h : collector.start network = .ok after) : after.Unhindered := by
  obtain ⟨created, addresses, rfl⟩ := start_eq_ok h
  obtain ⟨-, noHands, noSenders⟩ := sound.unstarted created
  refine ⟨sound.sending, sound.receiving, nofun, nofun, sound.staffable, ?_⟩
  intro index inside
  simp only [List.length_map] at inside
  have worker := sound.staffable _ (List.getElem_mem inside)
  simp only [Workshop.workersOf, List.getElem?_map, List.getElem?_eq_getElem inside, Option.map_some,
    Option.getD_some, Input.start]
  omega

theorem arrive (sound : collector.Unhindered) (index : Nat) (datagram : Datagram) :
    (collector.arrive index datagram).2.Unhindered := by
  obtain ⟨input, started, found, -, arrived⟩ | ⟨_, _, -, arrived⟩ :=
    arrive_cases collector index datagram
  · rw [arrived]
    refine ⟨sound.sending, sound.receiving, sound.running, ?_, sound.staffable, ?_⟩
    · intro created
      rw [started] at created
      cases created
    · intro other inside
      rw [List.length_set] at inside
      have same := Workshop.workersOf_set found
        { input with intake.waiting := input.intake.waiting ++ [datagram] } rfl other
      exact same ▸ sound.staffed other inside
  · rw [arrived]
    exact ⟨sound.sending, sound.receiving, sound.running, sound.unstarted, sound.staffable,
      sound.staffed⟩

theorem perform {act : Act} {workshop : Workshop} (sound : collector.Unhindered)
    (h : collector.workshop.perform? act = some workshop) :
    Unhindered { collector with workshop } := by
  obtain ⟨receiving, sending, inputs⟩ := Workshop.perform_frame h
  refine ⟨sending.trans sound.sending, receiving.trans sound.receiving, sound.running, ?_, sound.staffable, ?_⟩
  · intro created
    obtain ⟨noInputs, noHands, noSenders⟩ := sound.unstarted created
    rw [Workshop.perform_of_empty noInputs noHands noSenders] at h
    cases h
  · intro index inside
    rw [inputs] at inside
    rw [Workshop.workersOf_perform sound.receiving h inside]
    exact sound.staffed index inside

/-- Stopping leaves nobody, so the collector has `Ended`, and what waits is what waited when the workers had
settled. -/
theorem stop (sound : collector.Unhindered) (settled : collector.settle.Unhindered) :
    collector.stop.Ended
      ∧ collector.stop.workshop.outgoing.waiting = collector.settle.workshop.outgoing.waiting := by
  unfold Collector.stop
  cases phase : collector.phase with
  | stopped => exact absurd phase sound.running
  | created =>
    obtain ⟨inputs, hands, senders⟩ := sound.unstarted phase
    have still : collector.workshop.act? = none :=
      List.findSome?_eq_none_iff.2 fun _ _ => Workshop.perform_of_empty inputs hands senders
    refine ⟨⟨inputs, hands, rfl, rfl, sound.receiving⟩, ?_⟩
    rw [Collector.settle, Workshop.settle_of_act_none still]
    rfl
  | started => exact ⟨⟨rfl, rfl, rfl, rfl, settled.receiving⟩, rfl⟩

end Collector.Unhindered

end FlowCollector
