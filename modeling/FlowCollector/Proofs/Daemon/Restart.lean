import FlowCollector.Proofs.Collector.FailedStart
import FlowCollector.Proofs.Daemon.Shutdown

/-!
# A daemon is started once

The start of a daemon gives the receiving end of the queue away before it knows whether the collector starts. When the
collector does not, the end is gone, and with it the daemon: only the first start does anything, and every later one
is told that the daemon was started already, whether it was or not.

The collector below knows better. After a start that failed for want of an address it is still one that was never
started, and would start when asked again. But nobody asks it, and nobody could receive from it.
-/

set_option autoImplicit false

namespace FlowCollector

namespace Collector

variable {collector : Collector}

/-- The collector was never started. It may have been stopped, which leaves it without addresses just the same. -/
structure Unstarted (collector : Collector) : Prop where
  staged : collector.Staged
  idle : collector.phase ≠ .started
  addresses : collector.addresses = []

/-- A reception changes nothing but the `Workshop`. -/
theorem exists_receive_eq {answer : Received} {after : Collector} (received : collector.receive = (answer, after)) :
    ∃ workshop, after = { collector with workshop } := by
  rcases collector.receive_cases with ⟨record, others, -, taken⟩ | ⟨other, -, taken⟩
  · obtain ⟨-, rfl⟩ := Prod.mk.inj (taken.symm.trans received)
    exact ⟨_, rfl⟩
  · obtain ⟨-, rfl⟩ := Prod.mk.inj (taken.symm.trans received)
    exact ⟨collector.workshop, rfl⟩

namespace Unstarted

theorem of_build {setup : Setup} (accepted : build setup = .ok collector) : collector.Unstarted := by
  have staged : collector.Staged := Ledger.staged_start accepted
  obtain ⟨-, rfl⟩ := build_eq_ok accepted
  exact ⟨staged, by simp [create], rfl⟩

theorem stop (unstarted : collector.Unstarted) : collector.stop.Unstarted := by
  have staged : (Ledger.start collector).collector.Staged := unstarted.staged
  refine ⟨Ledger.kept_staged.stop staged fun started => absurd started unstarted.idle, by simp [Ledger.phase_stop], ?_⟩
  unfold Collector.stop
  split <;> exact unstarted.addresses

theorem dropReceiver (unstarted : collector.Unstarted) : collector.dropReceiver.Unstarted := by
  have staged : (Ledger.start collector).collector.Staged := unstarted.staged
  exact ⟨Ledger.kept_staged.dropReceiver staged, unstarted.idle, unstarted.addresses⟩

theorem settle_eq (unstarted : collector.Unstarted) : collector.settle = collector :=
  unstarted.staged.settle_of_idle unstarted.idle

end Unstarted

end Collector

namespace Daemon

/-- What a daemon is asked for by whoever runs it: `Daemon.start` or `Daemon.shutdown`. -/
inductive Call where
  | start (network : Network) (writer : Writer)
  | shutdown

def call (daemon : Daemon) : Call → Daemon
  | .start network writer => (daemon.start network writer).2
  | .shutdown => daemon.shutdown.2

/-- The daemon after calls, one `call` behind the other. -/
def calls (daemon : Daemon) (asked : List Call) : Daemon := asked.foldl call daemon

/-- What the starts among the calls are told, one behind the other. A shutdown has an answer too, which nothing here
is about. -/
def told (daemon : Daemon) : List Call → List (Except DaemonError Unit)
  | [] => []
  | .start network writer :: later =>
    (daemon.start network writer).1 :: (daemon.start network writer).2.told later
  | .shutdown :: later => daemon.shutdown.2.told later

variable {daemon : Daemon} {network : Network} {writer : Writer}

/-! ## One call -/

theorem start_of_not_held (gone : daemon.output ≠ .held) (network : Network) (writer : Writer) :
    daemon.start network writer = (.error .alreadyStarted, daemon) := by
  unfold start
  split
  case _ held => exact absurd held gone
  case _ => rfl

/-- A start that fails has lost the receiving end: the `output` is no longer `held`, although nothing was started. -/
theorem start_of_error {failure : Failure} (held : daemon.output = .held)
    (failed : daemon.collector.start network = .error failure) (writer : Writer) :
    daemon.start network writer
      = (.error (.start failure), { daemon with collector := daemon.collector.dropReceiver, output := .lost }) := by
  simp only [start, held, failed]

theorem start_of_held (held : daemon.output = .held) (network : Network) (writer : Writer) :
    (daemon.start network writer).1 ≠ .error .alreadyStarted := by
  cases begun : daemon.collector.start network with
  | error failure =>
    rw [start_of_error held begun]
    nofun
  | ok collector =>
    simp only [start, held, begun]
    nofun

/-- The sink takes what the workers give it by `pump`, and nothing but their workshop changes. -/
theorem exists_pump_eq (collector : Collector) (sink : Sink) :
    ∃ workshop, (pump collector sink).1 = { collector with workshop } := by
  fun_induction pump collector sink with
  | case1 collector sink record after received taken broken =>
    obtain ⟨workshop, rfl⟩ := Collector.exists_receive_eq received
    exact ⟨_, rfl⟩
  | case2 collector sink record after received taken _ last flushed broken =>
    obtain ⟨workshop, rfl⟩ := Collector.exists_receive_eq received
    exact ⟨_, rfl⟩
  | case3 collector sink record after received taken _ last flushed _ ih =>
    obtain ⟨workshop, rfl⟩ := Collector.exists_receive_eq received
    obtain ⟨later, pumped⟩ := ih
    exact ⟨later, pumped⟩
  | case4 collector sink record after received taken _ more ih =>
    obtain ⟨workshop, rfl⟩ := Collector.exists_receive_eq received
    obtain ⟨later, pumped⟩ := ih
    exact ⟨later, pumped⟩
  | case5 collector sink answer after nothing received =>
    exact Collector.exists_receive_eq received

/-- A daemon whose collector starts has been started, with the addresses that `Collector.start` found, and holds the
receiving end no more. -/
theorem start_of_ok {collector : Collector} (held : daemon.output = .held)
    (begun : daemon.collector.start network = .ok collector) (writer : Writer) :
    ∃ workshop output, output ≠ .held ∧ daemon.start network writer
      = (.ok (), { daemon with collector := { collector with workshop }, output }) := by
  obtain ⟨workshop, pumped⟩ := exists_pump_eq collector.settle (.start bufferSize writer)
  have ran : daemon.start network writer
      = (.ok (), run { daemon with collector, output := .running (.start bufferSize writer) }) := by
    simp only [start, held, begun]
  simp only [run, pumped] at ran
  refine ⟨workshop, _, ?_, ran⟩
  split <;> exact Output.noConfusion

/-- Where no sink has ever run, a shutdown only stops the collector, and tells that nothing was written. -/
theorem shutdown_of_unstarted (unstarted : daemon.collector.Unstarted)
    (silent : daemon.output = .held ∨ daemon.output = .lost) :
    daemon.shutdown = (.ok 0, { daemon with collector := daemon.collector.stop }) := by
  have still : daemon.run = daemon := by
    rcases silent with held | lost
    · simp only [run, held, unstarted.settle_eq]
      rw [← held]
    · simp only [run, lost, unstarted.settle_eq]
      rw [← lost]
  rcases silent with held | lost
  · simp only [shutdown, still, held]
  · simp only [shutdown, still, lost]

/-- What a shutdown leaves does not hold the receiving end, unless the daemon held it before. So nothing brings the
end back. -/
theorem shutdown_not_held (gone : daemon.output ≠ .held) : daemon.shutdown.2.output ≠ .held := by
  have ran : daemon.run.output ≠ .held := by
    unfold run
    split
    · dsimp only
      split <;> nofun
    · exact gone
  unfold shutdown
  dsimp only
  split
  · nofun
  · nofun
  · exact ran

/-! ## After a start, whatever it came to -/

theorem told_of_not_held (gone : daemon.output ≠ .held) (asked : List Call) :
    ∀ answer ∈ daemon.told asked, answer = .error .alreadyStarted := by
  induction asked generalizing daemon with
  | nil => nofun
  | cons first later ih =>
    cases first with
    | start network writer =>
      rw [told, start_of_not_held gone]
      exact List.forall_mem_cons.2 ⟨rfl, ih gone⟩
    | shutdown => exact ih (shutdown_not_held gone)

theorem calls_not_held (gone : daemon.output ≠ .held) (asked : List Call) : (daemon.calls asked).output ≠ .held := by
  induction asked generalizing daemon with
  | nil => exact gone
  | cons first later ih =>
    cases first with
    | start network writer =>
      show (calls (daemon.start network writer).2 later).output ≠ .held
      rw [start_of_not_held gone]
      exact ih gone
    | shutdown => exact ih (shutdown_not_held gone)

theorem calls_of_not_held (gone : daemon.output ≠ .held) {asked : List Call} (running : .shutdown ∉ asked) :
    daemon.calls asked = daemon := by
  induction asked with
  | nil => rfl
  | cons first later ih =>
    cases first with
    | start network writer =>
      show calls (daemon.start network writer).2 later = daemon
      rw [start_of_not_held gone]
      exact ih (List.not_mem_of_not_mem_cons running)
    | shutdown => exact absurd List.mem_cons_self running

/-- A daemon whose start has failed. Its collector was never started, and nobody can receive from it: the end is
`lost`. -/
structure Bereft (daemon : Daemon) : Prop where
  lost : daemon.output = .lost
  unstarted : daemon.collector.Unstarted
  deaf : daemon.collector.workshop.outgoing.receiving = false

namespace Bereft

theorem gone (bereft : daemon.Bereft) : daemon.output ≠ .held := by
  rw [bereft.lost]
  nofun

theorem shutdown_eq (bereft : daemon.Bereft) :
    daemon.shutdown = (.ok 0, { daemon with collector := daemon.collector.stop }) :=
  shutdown_of_unstarted bereft.unstarted (.inr bereft.lost)

theorem written_eq (bereft : daemon.Bereft) : daemon.written = "" := by
  rw [written, bereft.lost]
  rfl

theorem inject_refused (bereft : daemon.Bereft) (record : FlowRecord) : (daemon.inject record).1 = .refused := by
  simp [inject, Collector.inject, Outgoing.isOpen, bereft.deaf]

theorem call (bereft : daemon.Bereft) (call : Call) : (daemon.call call).Bereft := by
  cases call with
  | start network writer =>
    rw [Daemon.call, start_of_not_held bereft.gone]
    exact bereft
  | shutdown =>
    rw [Daemon.call, bereft.shutdown_eq]
    refine ⟨bereft.lost, bereft.unstarted.stop, ?_⟩
    exact (Ledger.receiving_stop (.start daemon.collector)).trans bereft.deaf

theorem calls (bereft : daemon.Bereft) (asked : List Call) : (daemon.calls asked).Bereft := by
  induction asked generalizing daemon with
  | nil => exact bereft
  | cons first later ih => exact ih (bereft.call first)

end Bereft

/-! ## The first start -/

/-- What has become of a daemon that held the receiving end before these calls: it was never asked to start, or a
start succeeded, or one failed. The three cases exclude each other in what was `told`. -/
inductive Outcome (daemon : Daemon) (asked : List Call) : Prop where
  | untried (silent : daemon.told asked = []) (held : (daemon.calls asked).output = .held)
      (running : .shutdown ∉ asked → daemon.calls asked = daemon)
      (stopped : .shutdown ∈ asked → (daemon.calls asked).collector.phase = .stopped)
  | started {rest : List (Except DaemonError Unit)} (told : daemon.told asked = .ok () :: rest)
      (others : ∀ answer ∈ rest, answer = .error .alreadyStarted) (gone : (daemon.calls asked).output ≠ .held)
  | failed {failure : Failure} {rest : List (Except DaemonError Unit)}
      (told : daemon.told asked = .error (.start failure) :: rest)
      (others : ∀ answer ∈ rest, answer = .error .alreadyStarted) (bereft : (daemon.calls asked).Bereft)
      (running : .shutdown ∉ asked → (daemon.calls asked).collector = daemon.collector.dropReceiver)

theorem outcome (held : daemon.output = .held) (unstarted : daemon.collector.Unstarted) (asked : List Call) :
    daemon.Outcome asked := by
  induction asked generalizing daemon with
  | nil => exact .untried rfl held (fun _ => rfl) nofun
  | cons first later ih =>
    cases first with
    | start network writer =>
      cases begun : daemon.collector.start network with
      | error failure =>
        have answered := start_of_error held begun writer
        have bereft : (daemon.start network writer).2.Bereft := by
          rw [answered]
          exact ⟨rfl, unstarted.dropReceiver, rfl⟩
        have told := congrArg (·.1 :: (daemon.start network writer).2.told later) answered
        refine .failed told (told_of_not_held bereft.gone later) (bereft.calls later) ?_
        intro running
        show (calls (daemon.start network writer).2 later).collector = _
        rw [calls_of_not_held bereft.gone (List.not_mem_of_not_mem_cons running), answered]
      | ok collector =>
        obtain ⟨workshop, output, gone, answered⟩ := start_of_ok held begun writer
        have told := congrArg (·.1 :: (daemon.start network writer).2.told later) answered
        have begun : (daemon.start network writer).2.output ≠ .held := by
          rw [answered]
          exact gone
        exact .started told (told_of_not_held begun later) (calls_not_held begun later)
    | shutdown =>
      have answered := shutdown_of_unstarted unstarted (.inl held)
      have sorted : daemon.shutdown.2.Outcome later := by
        rw [answered]
        exact ih held unstarted.stop
      have phase : daemon.shutdown.2.collector.phase = .stopped := by
        rw [answered]
        exact Ledger.phase_stop daemon.collector
      cases sorted with
      | untried silent still running stopped =>
        refine .untried silent still (fun running => absurd List.mem_cons_self running) fun _ => ?_
        show (calls daemon.shutdown.2 later).collector.phase = .stopped
        by_cases again : .shutdown ∈ later
        · exact stopped again
        · rw [running again]
          exact phase
      | started told others gone => exact .started told others gone
      | failed told others bereft _ =>
        exact .failed told others bereft fun running => absurd List.mem_cons_self running

namespace Outcome

variable {asked : List Call}

theorem held_iff (outcome : daemon.Outcome asked) :
    (daemon.calls asked).output = .held ↔ daemon.told asked = [] := by
  cases outcome with
  | untried silent held => simp only [silent, held]
  | started told _ gone => simp only [told, gone, reduceCtorEq]
  | failed told _ bereft => simp only [told, bereft.gone, reduceCtorEq]

theorem start_iff (outcome : daemon.Outcome asked) (network : Network) (writer : Writer) :
    ((daemon.calls asked).start network writer).1 = .error .alreadyStarted ↔ daemon.told asked ≠ [] := by
  rw [ne_eq, ← outcome.held_iff]
  constructor
  · exact fun answered held => start_of_held held network writer answered
  · intro gone
    rw [start_of_not_held gone]

/-- If no start has failed, then one has been tried just if it has succeeded. -/
theorem tried_iff (outcome : daemon.Outcome asked) (none : ∀ failure, .error (.start failure) ∉ daemon.told asked) :
    daemon.told asked ≠ [] ↔ .ok () ∈ daemon.told asked := by
  cases outcome with
  | untried silent => simp only [silent, ne_eq, not_true_eq_false, List.not_mem_nil]
  | started told => simp only [told, ne_eq, reduceCtorEq, not_false_eq_true, List.mem_cons_self]
  | failed told =>
    rw [told] at none
    exact absurd List.mem_cons_self (none _)

theorem of_silent (outcome : daemon.Outcome asked) (silent : daemon.told asked = []) :
    (.shutdown ∉ asked → daemon.calls asked = daemon)
      ∧ (.shutdown ∈ asked → (daemon.calls asked).collector.phase = .stopped) := by
  cases outcome with
  | untried _ _ running stopped => exact ⟨running, stopped⟩
  | started told =>
    rw [told] at silent
    cases silent
  | failed told =>
    rw [told] at silent
    cases silent

/-- Where a start has failed, no other has succeeded, and the daemon is `Bereft` from then on. -/
theorem of_failed (outcome : daemon.Outcome asked) {failure : Failure}
    (failed : .error (.start failure) ∈ daemon.told asked) :
    .ok () ∉ daemon.told asked ∧ (daemon.calls asked).Bereft
      ∧ (.shutdown ∉ asked → (daemon.calls asked).collector = daemon.collector.dropReceiver) := by
  cases outcome with
  | untried silent =>
    rw [silent] at failed
    cases failed
  | started told others =>
    rw [told, List.mem_cons] at failed
    rcases failed with first | later
    · cases first
    · cases others _ later
  | failed told others bereft running =>
    refine ⟨?_, bereft, running⟩
    rw [told, List.mem_cons]
    rintro (first | later)
    · cases first
    · cases others _ later

end Outcome

end Daemon

/-- A daemon of settings that `Daemon.build` accepts, asked for starts and shutdowns in any order and answered by any
`Network`. It tells that it was started already just if a start was tried before, and nothing happens then. Where no
start has failed, that is just if one has succeeded. Before the first start it is as it was built, but for a shutdown:
after one a start is told so, and before one it succeeds if every input gets an address, and otherwise tells which did
not. A start that fails takes the receiving end with it: the daemon can never be started after that, takes no record
and writes nothing, although nothing runs and its collector would start if it were asked. -/
theorem daemon_start_tried_once {publish : SocketAddress → Except String Unit} {settings : Settings} {daemon : Daemon}
    (built : Daemon.build publish settings = .ok daemon) (asked : List Daemon.Call) (network : Network)
    (writer : Writer) :
    let now := daemon.calls asked
    let told := daemon.told asked
    let next := now.start network writer
    let inputs := daemon.collector.setup.inputs
    let lost : Daemon := { now with collector := now.collector.dropReceiver, output := .lost }
    (next.1 = .error .alreadyStarted ↔ told ≠ [])
      ∧ (told ≠ [] → next.2 = now)
      ∧ ((∀ failure, .error (.start failure) ∉ told) → (next.1 = .error .alreadyStarted ↔ .ok () ∈ told))
      ∧ (told = [] → .shutdown ∉ asked → now = daemon
          ∧ (network.Binds inputs → next.1 = .ok () ∧ next.2.collector.phase = .started
              ∧ ∀ place input, inputs[place]? = some input → ∃ address,
                next.2.collector.addresses[place]? = some address ∧ network place input.listen = .ok address)
          ∧ (¬ network.Binds inputs → ∃ place input reason, network.Refuses inputs place input reason
              ∧ next = (.error (.start (.collector (.bind input.listen reason))), lost)))
      ∧ (told = [] → .shutdown ∈ asked → next = (.error (.start .startAfterStop), lost))
      ∧ ∀ failure, .error (.start failure) ∈ told →
          .ok () ∉ told ∧ now.collector.phase ≠ .started ∧ now.collector.addresses = [] ∧ now.shutdown.1 = .ok 0
            ∧ now.written = "" ∧ (∀ record, (now.inject record).1 = .refused)
            ∧ (.shutdown ∉ asked → network.Binds inputs → ∃ after, now.collector.start network = .ok after) := by
  intro now told next inputs lost
  obtain ⟨setup, accepted, -, held⟩ := Daemon.build_eq_ok built
  have created : daemon.collector.phase = .created := by
    rw [(Collector.build_eq_ok accepted).2]
    rfl
  have outcome : daemon.Outcome asked := Daemon.outcome held (.of_build accepted) asked
  have already : next.1 = .error .alreadyStarted ↔ told ≠ [] := outcome.start_iff network writer
  refine ⟨already, fun tried => ?_, fun unfailed => already.trans (outcome.tried_iff unfailed),
    fun silent running => ?_, fun silent stopped => ?_, fun failure failed => ?_⟩
  · rw [ne_eq, ← outcome.held_iff] at tried
    exact congrArg Prod.snd (Daemon.start_of_not_held tried network writer)
  · have same : now = daemon := (outcome.of_silent silent).1 running
    refine ⟨same, fun binds => ?_, fun fails => ?_⟩
    · obtain ⟨addresses, started, each⟩ := Collector.start_of_binds created binds
      obtain ⟨workshop, output, -, answered⟩ := Daemon.start_of_ok held started writer
      have answered : next = _ := same ▸ answered
      rw [answered]
      exact ⟨rfl, rfl, each⟩
    · obtain ⟨place, input, reason, first, failed⟩ := Collector.start_of_not_binds created fails
      refine ⟨place, input, reason, first, ?_⟩
      exact Daemon.start_of_error (same ▸ held) (same ▸ failed) writer
  · have phase := (outcome.of_silent silent).2 stopped
    exact Daemon.start_of_error (outcome.held_iff.2 silent) (Collector.start_of_stopped phase network) writer
  · obtain ⟨never, bereft, running⟩ := outcome.of_failed failed
    refine ⟨never, bereft.unstarted.idle, bereft.unstarted.addresses, congrArg Prod.fst bereft.shutdown_eq,
      bereft.written_eq, bereft.inject_refused, fun asking binds => ?_⟩
    have same : now.collector = daemon.collector.dropReceiver := running asking
    have ready : daemon.collector.dropReceiver.phase = .created := created
    obtain ⟨addresses, started, -⟩ := Collector.start_of_binds ready binds
    rw [same]
    exact ⟨_, started⟩

/-- Two inputs, and an address of the second that is free or not. Started and shut down, the daemon tells that it was
started. Where the first start failed it takes no record. -/
theorem daemon_start_tried_once_two_inputs :
    let settings : Settings := { flow := { inputs := [{ listen := "0.0.0.0:2055" },
      { decoder := "sflow", listen := "127.0.0.1:6343" }] } }
    let second : SocketAddress := .v4 ⟨127, 0, 0, 1⟩ 6343
    let setup : Setup := ⟨[⟨.netflow, .v4 ⟨0, 0, 0, 0⟩ 2055, 1, 100000, 1⟩, ⟨.sflow, second, 1, 100000, 1⟩], 10000, 5⟩
    let daemon : Daemon := ⟨settings, .create setup, .held⟩
    let taken : Network := fun place address => if place = 0 then .ok address else .error "in use"
    let free : Network := fun _ address => .ok address
    let writer : Writer := ⟨none, ""⟩
    let started := daemon.start free writer
    let after := daemon.calls [.start free writer, .shutdown]
    let failed := daemon.calls [.start taken writer, .shutdown]
    Daemon.build (fun _ => .ok ()) settings = .ok daemon ∧ free.Binds setup.inputs
      ∧ started.1 = .ok () ∧ started.2.collector.addresses[1]? = some second
      ∧ after.start free writer = (.error .alreadyStarted, after)
      ∧ daemon.told [.start taken writer, .shutdown] = [.error (.start (.collector (.bind second "in use")))]
      ∧ (failed.inject (.blank (.v4 ⟨192, 0, 2, 7⟩) 60)).1 = .refused := by
  intro settings second setup daemon taken free writer started after failed
  have built : Daemon.build (fun _ => .ok ()) settings = .ok daemon := by decide +kernel
  have binds : free.Binds setup.inputs := fun _ input _ => ⟨input.listen, rfl⟩
  have told : daemon.told [.start taken writer, .shutdown] = [.error (.start (.collector (.bind second "in use")))] :=
    rfl
  obtain ⟨-, -, -, fresh, -⟩ := daemon_start_tried_once built [] free writer
  obtain ⟨-, works, -⟩ := fresh rfl List.not_mem_nil
  obtain ⟨done, -, own⟩ := works binds
  obtain ⟨address, found, same⟩ := own 1 _ rfl
  obtain rfl := Except.ok.inj same
  obtain ⟨already, unmoved, -⟩ := daemon_start_tried_once built [.start free writer, .shutdown] free writer
  have again : after.start free writer = (.error .alreadyStarted, after) :=
    Prod.ext (already.2 (List.cons_ne_nil _ _)) (unmoved (List.cons_ne_nil _ _))
  obtain ⟨-, -, -, -, -, bereft⟩ := daemon_start_tried_once built [.start taken writer, .shutdown] free writer
  obtain ⟨-, -, -, -, -, refuses, -⟩ := bereft _ (told ▸ List.mem_cons_self)
  exact ⟨built, binds, done, found, again, told, refuses _⟩

/-- The address of the second input is taken when the daemon is started first, and free when it is started again. The
second start tells that it was started already, and no start has ever succeeded. -/
theorem already_started_never_started :
    let settings : Settings := { flow := { inputs := [{ listen := "0.0.0.0:2055" },
      { decoder := "sflow", listen := "127.0.0.1:2055" }] } }
    let second : SocketAddress := .v4 ⟨127, 0, 0, 1⟩ 2055
    let setup : Setup := ⟨[⟨.netflow, .v4 ⟨0, 0, 0, 0⟩ 2055, 1, 100000, 1⟩, ⟨.sflow, second, 1, 100000, 1⟩], 10000, 5⟩
    let daemon : Daemon := ⟨settings, .create setup, .held⟩
    let taken : Network := fun place address => if place = 0 then .ok address else .error "in use"
    let free : Network := fun _ address => .ok address
    let writer : Writer := ⟨none, ""⟩
    Daemon.build (fun _ => .ok ()) settings = .ok daemon ∧ free.Binds setup.inputs
      ∧ daemon.told [.start taken writer] = [.error (.start (.collector (.bind second "in use")))]
      ∧ ((daemon.calls [.start taken writer]).start free writer).1 = .error .alreadyStarted := by
  intro settings second setup daemon taken free writer
  refine ⟨by decide +kernel, fun _ input _ => ⟨input.listen, rfl⟩, rfl, rfl⟩

end FlowCollector
