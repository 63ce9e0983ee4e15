import FlowCollector.Collector
import FlowCollector.Proofs.Workshop

/-!
# What each request does

For each request, every way in which it can be answered, and what the collector is after that. A request
that is refused leaves the collector as it was, but for the counts: a datagram that is dropped is still
counted.
-/

set_option autoImplicit false

namespace FlowCollector.Collector

variable {collector after : Collector}

/-- A start that succeeds has found an address for every input by `bindAll`, and has changed nothing but what is named
here. -/
theorem bindAll_of_start {network : Network} (h : collector.start network = .ok after) :
    collector.phase = .created ∧ ∃ addresses, bindAll network 0 collector.setup.inputs = .ok addresses
      ∧ after = { collector with
        phase := .started
        addresses
        workshop.inputs := collector.setup.inputs.map .start } := by
  unfold start at h
  cases phase : collector.phase with
  | started =>
    rw [phase] at h
    cases h
  | stopped =>
    rw [phase] at h
    cases h
  | created =>
    rw [phase] at h
    dsimp only at h
    cases bound : bindAll network 0 collector.setup.inputs with
    | error error =>
      rw [bound] at h
      cases h
    | ok addresses =>
      rw [bound] at h
      exact ⟨rfl, addresses, rfl, (Except.ok.inj h).symm⟩

/-- Only a collector that was never started can be. It keeps all it had, and gets its inputs, each as `Input.start`
makes it. -/
theorem start_eq_ok {network : Network} (h : collector.start network = .ok after) :
    collector.phase = .created ∧ ∃ addresses, after = { collector with
      phase := .started
      addresses
      workshop.inputs := collector.setup.inputs.map .start } := by
  obtain ⟨created, addresses, -, same⟩ := bindAll_of_start h
  exact ⟨created, addresses, same⟩

theorem length_of_bindAll {network : Network} {index : Nat} {inputs : List InputSetup}
    {addresses : List SocketAddress} (h : bindAll network index inputs = .ok addresses) :
    addresses.length = inputs.length := by
  induction inputs generalizing index addresses with
  | nil =>
    obtain rfl := Except.ok.inj h
    rfl
  | cons input others ih =>
    unfold bindAll at h
    cases own : network index input.listen with
    | error reason =>
      rw [own] at h
      cases h
    | ok address =>
      rw [own] at h
      dsimp only at h
      cases rest : bindAll network (index + 1) others with
      | error error =>
        rw [rest] at h
        cases h
      | ok found =>
        rw [rest] at h
        obtain rfl := Except.ok.inj h
        exact congrArg (· + 1) (ih rest)

/-- Whoever has been started has an address for every input of its `Setup`. -/
theorem length_addresses_of_start {network : Network} (h : collector.start network = .ok after) :
    after.addresses.length = collector.setup.inputs.length := by
  obtain ⟨-, addresses, bound, rfl⟩ := bindAll_of_start h
  exact length_of_bindAll bound

/-- A datagram that `arrive` brings to a running input is taken at the end of its intake queue, or dropped and only
counted. Any other changes nothing. -/
theorem arrive_outcome (collector : Collector) (index : Nat) (datagram : Datagram) :
    (∃ input, collector.phase = .started ∧ collector.workshop.inputs[index]? = some input
      ∧ (input.intake.hasRoom = true
          ∧ collector.arrive index datagram = (.taken, { collector with
            workshop.inputs := collector.workshop.inputs.set index { input with
              intake.waiting := input.intake.waiting ++ [datagram] }
            workshop.monitor := collector.workshop.monitor.add (.received index) 1 })
        ∨ input.intake.hasRoom = false
          ∧ collector.arrive index datagram = (.dropped, { collector with
            workshop.monitor :=
              (collector.workshop.monitor.add (.received index) 1).add (.dropped index) 1 })))
    ∨ ∃ answer, answer ≠ .taken ∧ answer ≠ .dropped
      ∧ collector.arrive index datagram = (answer, collector) := by
  unfold arrive
  by_cases far : collector.addresses.length ≤ index
  · exact .inr ⟨.noSuchAddress, nofun, nofun, if_pos far⟩
  by_cases started : collector.phase = .started
  · rw [if_neg far, if_pos started]
    cases found : collector.workshop.inputs[index]? with
    | none => exact .inr ⟨.noSuchAddress, nofun, nofun, rfl⟩
    | some input =>
      refine .inl ⟨input, started, rfl, ?_⟩
      cases room : input.intake.hasRoom with
      | true =>
        refine .inl ⟨rfl, ?_⟩
        simp only [Intake.offer, Intake.push, room, if_true]
      | false =>
        -- What was not taken leaves its input as it was, so putting the input back changes nothing.
        have same : collector.workshop.inputs.set index input = collector.workshop.inputs := by
          obtain ⟨inside, rfl⟩ := List.getElem?_eq_some_iff.1 found
          exact List.set_getElem_self inside
        refine .inr ⟨rfl, ?_⟩
        simp only [Intake.offer, room, Bool.false_eq_true, if_false, same]
  · rw [if_neg far, if_neg started]
    exact .inr ⟨.notRunning, nofun, nofun, rfl⟩

/-- A datagram is taken at the end of the intake queue of a running input, or only counted: `arrive_outcome` without
the answers that take nothing. -/
theorem arrive_cases (collector : Collector) (index : Nat) (datagram : Datagram) :
    (∃ input, collector.phase = .started
      ∧ collector.workshop.inputs[index]? = some input ∧ input.intake.hasRoom = true
      ∧ collector.arrive index datagram = (.taken, { collector with
          workshop.inputs := collector.workshop.inputs.set index { input with
            intake.waiting := input.intake.waiting ++ [datagram] }
          workshop.monitor := collector.workshop.monitor.add (.received index) 1 }))
    ∨ ∃ answer monitor, answer ≠ .taken
      ∧ collector.arrive index datagram = (answer, { collector with workshop.monitor := monitor }) := by
  rcases arrive_outcome collector index datagram with
    ⟨input, started, found, ⟨room, arrived⟩ | ⟨-, arrived⟩⟩ | ⟨answer, refused, -, arrived⟩
  · exact .inl ⟨input, started, found, room, arrived⟩
  · exact .inr ⟨.dropped, _, nofun, arrived⟩
  · exact .inr ⟨answer, collector.workshop.monitor, refused, arrived⟩

/-- A record is put at the end of the outgoing queue by `inject`, or nothing happens. -/
theorem inject_cases (collector : Collector) (record : FlowRecord) :
    (collector.workshop.outgoing.isOpen = true ∧ collector.workshop.outgoing.hasRoom = true
      ∧ collector.inject record = (.accepted, { collector with
          workshop.outgoing := collector.workshop.outgoing.put record }))
    ∨ ∃ answer, answer ≠ .accepted ∧ collector.inject record = (answer, collector) := by
  unfold inject
  by_cases opened : collector.workshop.outgoing.isOpen = true
  · by_cases room : collector.workshop.outgoing.hasRoom = true
    · exact .inl ⟨opened, room, by simp [opened, room]⟩
    · exact .inr ⟨.wouldWait, nofun, by simp [opened, room]⟩
  · exact .inr ⟨.refused, nofun, by simp [opened]⟩

/-- The oldest record is received by `receive`, or nothing happens. -/
theorem receive_cases (collector : Collector) :
    (∃ record others, collector.workshop.outgoing.waiting = record :: others
      ∧ collector.receive = (.record record, { collector with
          workshop.outgoing := { collector.workshop.outgoing with waiting := others } }))
    ∨ ∃ answer, (∀ record, answer ≠ .record record) ∧ collector.receive = (answer, collector) := by
  unfold receive
  by_cases gone : collector.workshop.outgoing.receiving = true
  · cases waits : collector.workshop.outgoing.waiting with
    | nil =>
      refine .inr ⟨if collector.workshop.outgoing.sending then .empty else .closed, ?_, ?_⟩
      · intro record
        split <;> nofun
      · simp [gone, Outgoing.pop?, waits]
    | cons record others => exact .inl ⟨record, others, rfl, by simp [gone, Outgoing.pop?, waits]⟩
  · exact .inr ⟨.noReceiver, nofun, by simp [gone]⟩

/-! ## Draining a collector that was stopped -/

/-- Nobody is left to put a record into the outgoing queue, and the consumer is there. This is what `stop` leaves,
unless the consumer has gone. -/
structure Ended (collector : Collector) : Prop where
  inputs : collector.workshop.inputs = []
  hands : collector.workshop.hands = []
  senders : collector.workshop.outgoing.senders = []
  sending : collector.workshop.outgoing.sending = false
  receiving : collector.workshop.outgoing.receiving = true

/-- What waits has no part in `Ended`, so receiving keeps it. -/
theorem Ended.withWaiting (h : collector.Ended) (waiting : List FlowRecord) :
    Ended { collector with
      workshop.outgoing := { collector.workshop.outgoing with waiting } } :=
  ⟨h.inputs, h.hands, h.senders, h.sending, h.receiving⟩

theorem Ended.held (h : collector.Ended) : collector.workshop.held = [] := by
  rw [Workshop.held, h.hands, h.senders]
  rfl

/-- With nobody to send, no place counts as taken, whatever still waits. -/
theorem Ended.length (h : collector.Ended) : collector.workshop.outgoing.length = 0 := by
  simp [Outgoing.length, Outgoing.isOpen, h.sending]

/-- Where nobody is left, nobody acts, and `settle` changes nothing. -/
theorem Ended.settle (h : collector.Ended) : collector.settle = collector := by
  have still : collector.workshop.act? = none :=
    List.findSome?_eq_none_iff.2 fun _ _ => Workshop.perform_of_empty h.inputs h.hands h.senders
  rw [Collector.settle, Workshop.settle_of_act_none still]

/-- Draining a collector that has `Ended` gives what waits, in its order, and then the end. -/
theorem Ended.drain (h : collector.Ended) :
    ∃ last, collector.drain = (collector.workshop.outgoing.waiting, .closed, last) := by
  -- The induction is on what waits, since every reception leaves a collector that has ended as well.
  generalize left : collector.workshop.outgoing.waiting = waiting
  induction waiting generalizing collector with
  | nil =>
    have received : collector.receive = (.closed, collector) := by
      simp [receive, h.receiving, h.sending, Outgoing.pop?, left]
    refine ⟨collector, ?_⟩
    unfold drain
    split
    case _ record _ other =>
      rw [received] at other
      cases other
    case _ ending after _ other =>
      rw [received] at other
      cases other
      rfl
  | cons record others ih =>
    let shorter : Collector := { collector with
      workshop.outgoing := { collector.workshop.outgoing with waiting := others } }
    have received : collector.receive = (.record record, shorter) := by
      simp [receive, h.receiving, Outgoing.pop?, left, shorter]
    have ended : shorter.Ended := h.withWaiting others
    obtain ⟨last, drained⟩ := ih ended rfl
    refine ⟨last, ?_⟩
    unfold drain
    split
    case _ record' after other =>
      rw [received] at other
      cases other
      rw [ended.settle, drained]
    case _ ending after distinct other =>
      rw [received] at other
      cases other
      exact absurd rfl (distinct record)

end FlowCollector.Collector
