import FlowCollector.Proofs.Collector.Lifecycle

/-!
# A start that fails

The inputs of a collector ask for their addresses in order, and the first that gets none decides what the start answers.
Nothing was done by then that is not given back: there is no input and no worker, and not even the counts tell that a
start was tried. So it can be left out of the requests, wherever it stood among them, and only its own answer goes with
it.

A later start is asked of the same collector, and how it ends hangs on its own answers from the system alone.
-/

set_option autoImplicit false

namespace FlowCollector

/-- Every input gets an address from the `Network` when `bindAll` asks for it. -/
def Network.Binds (network : Network) (inputs : List InputSetup) : Prop :=
  ∀ index input, inputs[index]? = some input → ∃ address, network index input.listen = .ok address

/-- The input of this number is the first that gets no address, and this is the reason that the `Network` gives. -/
structure Network.Refuses (network : Network) (inputs : List InputSetup) (index : Nat) (input : InputSetup)
    (reason : String) : Prop where
  there : inputs[index]? = some input
  refused : network index input.listen = .error reason
  earlier : ∀ other < index, ∀ before, inputs[other]? = some before →
    ∃ address, network other before.listen = .ok address

namespace Collector

variable {collector : Collector} {network : Network}

/-! ## Addresses -/

/-- The inputs behind the first are asked for like inputs of their own, of a `Network` that counts from them. -/
theorem bindAll_succ (network : Network) (index : Nat) (inputs : List InputSetup) :
    bindAll network (index + 1) inputs = bindAll (fun other => network (other + 1)) index inputs := by
  induction inputs generalizing index with
  | nil => rfl
  | cons input others ih =>
    unfold bindAll
    rw [ih]

/-- Either all get addresses, one behind the other, or the first that `Refuses` ends it with its own error. -/
theorem bindAll_cases (network : Network) (inputs : List InputSetup) :
    (∃ addresses, bindAll network 0 inputs = .ok addresses
        ∧ ∀ index input, inputs[index]? = some input →
          ∃ address, addresses[index]? = some address ∧ network index input.listen = .ok address)
      ∨ ∃ index input reason, network.Refuses inputs index input reason
        ∧ bindAll network 0 inputs = .error (.bind input.listen reason) := by
  induction inputs generalizing network with
  | nil => exact .inl ⟨[], rfl, fun _ _ found => by cases found⟩
  | cons first others ih =>
    unfold bindAll
    rw [bindAll_succ]
    cases own : network 0 first.listen with
    | error reason =>
      exact .inr ⟨0, first, reason, ⟨rfl, own, fun _ below => absurd below (Nat.not_lt_zero _)⟩, rfl⟩
    | ok address =>
      rcases ih fun other => network (other + 1) with
        ⟨addresses, bound, each⟩ | ⟨index, input, reason, ⟨there, refused, earlier⟩, failed⟩
      · refine .inl ⟨address :: addresses, by rw [bound]; rfl, fun index input found => ?_⟩
        cases index with
        | zero =>
          obtain rfl := Option.some.inj found
          exact ⟨address, rfl, own⟩
        | succ index => exact each index input found
      · refine .inr ⟨index + 1, input, reason, ⟨there, refused, fun other below before found => ?_⟩,
          by rw [failed]; rfl⟩
        cases other with
        | zero =>
          obtain rfl := Option.some.inj found
          exact ⟨address, own⟩
        | succ other => exact earlier other (Nat.lt_of_succ_lt_succ below) before found

/-- A start of a collector that was never started fails with the first input that gets no address, and
`Collector.start` gives no other collector. -/
theorem start_of_not_binds (created : collector.phase = .created) (fails : ¬ network.Binds collector.setup.inputs) :
    ∃ index input reason, network.Refuses collector.setup.inputs index input reason
      ∧ collector.start network = .error (.collector (.bind input.listen reason)) := by
  rcases bindAll_cases network collector.setup.inputs with ⟨addresses, -, each⟩ | ⟨index, input, reason, first, failed⟩
  · refine absurd (fun index input found => ?_) fails
    obtain ⟨address, -, own⟩ := each index input found
    exact ⟨address, own⟩
  · refine ⟨index, input, reason, first, ?_⟩
    simp only [start, created, failed]
    rfl

/-- If the network `Binds` all of them, the collector is started with these addresses, in the order of its inputs. -/
theorem start_of_binds (created : collector.phase = .created) (binds : network.Binds collector.setup.inputs) :
    ∃ addresses, collector.start network = .ok { collector with
        phase := .started
        addresses
        workshop.inputs := collector.setup.inputs.map .start }
      ∧ ∀ index input, collector.setup.inputs[index]? = some input →
        ∃ address, addresses[index]? = some address ∧ network index input.listen = .ok address := by
  rcases bindAll_cases network collector.setup.inputs with ⟨addresses, bound, each⟩ | ⟨index, input, reason, first, -⟩
  · refine ⟨addresses, ?_, each⟩
    simp only [start, created, bound]
    rfl
  · obtain ⟨address, own⟩ := binds index input first.there
    rw [first.refused] at own
    cases own

theorem answer_start_of_binds (created : collector.phase = .created) (binds : network.Binds collector.setup.inputs) :
    let next := collector.answer (.start network)
    next.1 = .done ∧ next.2.phase = .started ∧ next.2.workshop.inputs = collector.setup.inputs.map .start
      ∧ ∀ index input, collector.setup.inputs[index]? = some input →
        ∃ address, next.2.addresses[index]? = some address ∧ network index input.listen = .ok address := by
  obtain ⟨addresses, started, each⟩ := start_of_binds created binds
  simp only [answer, started, true_and]
  exact each

/-! ## Before the start -/

/-- A collector of this `Setup`, which has no addresses until it is started. -/
structure Unbound (setup : Setup) (collector : Collector) : Prop where
  same : collector.setup = setup
  addresses : collector.phase = .created → collector.addresses = []

end Collector

namespace Ledger

theorem kept_unbound (setup : Setup) : Kept fun ledger => ledger.collector.Unbound setup where
  step := by
    intro ledger unbound event
    have change := ledger.change_step event
    generalize (ledger.step event).collector = after at change
    cases change with
    | started => exact ⟨unbound.same, nofun⟩
    | _ => exact ⟨unbound.same, unbound.addresses⟩
  stop := by
    intro ledger unbound _
    refine ⟨?_, by simp [phase_stop]⟩
    show ledger.collector.stop.setup = setup
    rw [← unbound.same]
    unfold Collector.stop
    split <;> rfl
  dropReceiver := fun unbound => ⟨unbound.same, unbound.addresses⟩

/-- Nothing is written down of a start that fails, so a course goes on as if it had not been asked for. -/
theorem course_failed_start {ledger : Ledger} {network : Network} {failure : Failure}
    (failed : ledger.collector.start network = .error failure) (later : List Move) :
    ledger.course (.event (.start network) :: later) = ledger.course later := by
  have same : ledger.move (.event (.start network)) = ledger := by simp only [move, step, failed]
  rw [course, List.foldl_cons, same]
  rfl

end Ledger

/-- A collector of a `Setup` that passes, before its start, whatever has happened to it, and a start in which some
input gets no address. The answer names the first input that the network `Refuses`. No input has an address and nobody
works there, and whatever is asked or happens later goes as if that start had never been tried. So a later start of a
network that `Binds` every input is done, with just these addresses. -/
theorem failed_start_undone {setup : Setup} {collector : Collector} (accepted : Collector.build setup = .ok collector)
    {moves : List Move} (created : ((Ledger.start collector).course moves).collector.phase = .created)
    {network : Network} (fails : ¬ network.Binds setup.inputs) :
    let ledger := (Ledger.start collector).course moves
    let now := ledger.collector
    ∃ index input reason, network.Refuses setup.inputs index input reason
      ∧ let failed := Collector.Answer.failed (.collector (.bind input.listen reason))
        now.answer (.start network) = (failed, now)
        ∧ now.addresses = [] ∧ now.workshop.inputs = [] ∧ now.workshop.hands = [] ∧ now.workshop.outgoing.senders = []
        ∧ (∀ later, ledger.course (.event (.start network) :: later) = ledger.course later)
        ∧ (∀ requests, now.serveAll (.start network :: requests)
            = (failed :: (now.serveAll requests).1, (now.serveAll requests).2))
        ∧ ∀ (later : List Move) (again : Network), (ledger.course later).collector.phase = .created →
            again.Binds setup.inputs →
            let next := (ledger.course (.event (.start network) :: later)).collector.answer (.start again)
            next.1 = .done ∧ next.2.phase = .started ∧ next.2.workshop.inputs = setup.inputs.map .start
              ∧ ∀ place asked, setup.inputs[place]? = some asked →
                ∃ address, next.2.addresses[place]? = some address ∧ again place asked.listen = .ok address := by
  intro ledger now
  have staged : now.Staged := Ledger.kept_staged.course (Ledger.staged_start accepted) moves
  have begun : (Ledger.start collector).collector.Unbound setup := by
    obtain ⟨-, rfl⟩ := Collector.build_eq_ok accepted
    exact ⟨rfl, fun _ => rfl⟩
  have unbound : now.Unbound setup := (Ledger.kept_unbound setup).course begun moves
  have idle : now.phase ≠ .started := by simp [now, ledger, created]
  obtain ⟨inputs, hands, senders⟩ := staged.unmanned idle
  obtain ⟨index, input, reason, first, failed⟩ := Collector.start_of_not_binds created (unbound.same ▸ fails)
  have answered : now.answer (.start network) = (.failed (.collector (.bind input.listen reason)), now) := by
    simp only [Collector.answer, now, ledger, failed]
  refine ⟨index, input, reason, unbound.same ▸ first, answered, unbound.addresses created, inputs, hands, senders,
    Ledger.course_failed_start failed, fun requests => ?_, fun later again still binds => ?_⟩
  · have served : now.serve (.start network) = (.failed (.collector (.bind input.listen reason)), now) := by
      simp only [Collector.serve, answered, staged.settle_of_idle idle]
    rw [Collector.serveAll, served]
  · rw [Ledger.course_failed_start failed]
    have same : (ledger.course later).collector.setup = setup := ((Ledger.kept_unbound setup).course unbound later).same
    exact same ▸ Collector.answer_start_of_binds still (same ▸ binds)

/-- Somebody else has the address of the second input. A record that was put in before is received after that start, and
the next start is done when the address is free. -/
theorem failed_start_undone_second_input :
    let first : SocketAddress := .v4 ⟨127, 0, 0, 1⟩ 2055
    let second : SocketAddress := .v4 ⟨127, 0, 0, 1⟩ 6343
    let setup : Setup := ⟨[⟨.netflow, first, 1, 4, 1⟩, ⟨.sflow, second, 1, 4, 1⟩], 3, 1⟩
    let record : FlowRecord := .blank (.v4 ⟨192, 0, 2, 7⟩) 60
    let taken : Network := fun index address => if index = 0 then .ok address else .error "in use"
    let free : Network := fun _ address => .ok address
    let ledger := (Ledger.start (.create setup)).course [.event (.inject record)]
    let after := ledger.course [.event (.start taken), .event .receive]
    let next := after.collector.answer (.start free)
    Collector.build setup = .ok (.create setup) ∧ ledger.collector.phase = .created ∧ ¬ taken.Binds setup.inputs
      ∧ free.Binds setup.inputs
      ∧ (ledger.collector.answer (.start taken)).1 = .failed (.collector (.bind second "in use"))
      ∧ after = ledger.course [.event .receive] ∧ after.received = [record]
      ∧ next.1 = .done ∧ next.2.addresses[1]? = some second := by
  intro first second setup record taken free ledger after next
  have built : Collector.build setup = .ok (.create setup) := rfl
  have created : ledger.collector.phase = .created := rfl
  have fails : ¬ taken.Binds setup.inputs := by
    intro binds
    obtain ⟨address, own⟩ := binds 1 _ rfl
    cases own
  have binds : free.Binds setup.inputs := fun _ input _ => ⟨input.listen, rfl⟩
  obtain ⟨_, _, _, -, -, -, -, -, -, undone, -, retried⟩ := failed_start_undone built created fails
  obtain ⟨done, -, -, own⟩ := retried [.event .receive] free rfl binds
  obtain ⟨address, found, same⟩ := own 1 _ rfl
  obtain rfl := Except.ok.inj same
  exact ⟨built, created, fails, binds, rfl, undone _, rfl, done, found⟩

end FlowCollector
