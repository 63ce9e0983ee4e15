import FlowCollector.Proofs.Daemon.Scene

/-!
# From the start to the second shutdown

`Daemon.run` and `Daemon.shutdown` let workers and sink go on in one order of turns. Here each of them is shown to be
a list of turns, with no arrival among them and no stop but the one that is asked for. What holds after any turns holds
after them too, and since they come to an end, so can everybody else from wherever they are.
-/

set_option autoImplicit false

namespace FlowCollector

open scoped List

/-- A daemon to which datagrams are sent, one after another by `Daemon.arrive`. -/
def Daemon.serve (daemon : Daemon) (arrivals : List (Nat × Datagram)) : Daemon :=
  arrivals.foldl (fun daemon arrival => (daemon.arrive arrival.1 arrival.2).2) daemon

namespace Scene

variable {setup : Setup} {before : String} {scene : Scene}

/-- Taking a record, looking for more, and writing what was gathered if there is none: together these turns are one
step of `Daemon.pump`. -/
theorem exists_reception {record : FlowRecord} {after : Collector} (still : scene.stage = .waiting)
    (received : scene.ledger.collector.receive = (.record record, after)) :
    ∃ turns, turns.filter Turn.outside = [] ∧ (scene.run turns).ledger.collector = after
      ∧ (scene.run turns).sink = (if after.workshop.outgoing.waiting.isEmpty
        then (scene.sink.put record).flush else scene.sink.put record)
      ∧ (scene.run turns).stage = .waiting := by
  have collected : (scene.ledger.step .receive).collector = after := by
    rw [Ledger.collector_step_receive, received]
  have looked : scene.run [.take, .look] = { scene with
      ledger := scene.ledger.step .receive
      sink := scene.sink.put record
      stage := if after.workshop.outgoing.waiting.isEmpty then .flushing else .waiting } := by
    show (scene.step .take).step .look = _
    rw [step_take still received]
    simp only [step, Ledger.waiting, collected, if_true]
  by_cases last : after.workshop.outgoing.waiting.isEmpty = true
  · rw [if_pos last] at looked ⊢
    have flushed : scene.run [.take, .look, .flush] = (scene.run [.take, .look]).step .flush := rfl
    refine ⟨[.take, .look, .flush], rfl, ?_⟩
    rw [flushed, looked, step_flush rfl]
    refine ⟨collected, ?_, rfl⟩
    dsimp only
  · rw [if_neg last] at looked ⊢
    refine ⟨[.take, .look], rfl, ?_⟩
    rw [looked]
    refine ⟨collected, ?_, rfl⟩
    dsimp only

theorem run_acts (scene : Scene) (acts : List Act) :
    scene.run (acts.map .act) = { scene with ledger := scene.ledger.run (acts.map .act) } := by
  induction acts generalizing scene with
  | nil => rfl
  | cons act others ih => exact ih (scene.step (.act act))

theorem outside_acts (acts : List Act) : (acts.map Turn.act).filter Turn.outside = [] := by
  induction acts with
  | nil => rfl
  | cons act others ih => exact ih

/-- The workers settle by turns of theirs, and end where `Collector.settle` does. -/
theorem exists_settle (scene : Scene) : ∃ rest, rest.filter Turn.outside = []
    ∧ (scene.run rest).ledger.collector = scene.ledger.collector.settle
    ∧ (scene.run rest).sink = scene.sink ∧ (scene.run rest).stage = scene.stage := by
  obtain ⟨acts, settled, -⟩ := scene.ledger.exists_settling
  refine ⟨acts.map .act, outside_acts acts, ?_⟩
  rw [run_acts]
  exact ⟨settled, rfl, rfl⟩

/-- Where no record is received, none waits, and the collector stays as it was. -/
theorem Sound.nothing_received (sound : scene.Sound setup before) {answer : Received} {after : Collector}
    (received : scene.ledger.collector.receive = (answer, after)) (nothing : ∀ record, answer ≠ .record record) :
    scene.ledger.waiting = [] ∧ scene.ledger.collector = after := by
  rcases scene.ledger.collector.receive_cases with ⟨record, others, -, got⟩ | ⟨_, _, got⟩
  · rw [received] at got
    exact absurd (Prod.mk.inj got).1 (nothing record)
  · refine ⟨?_, (Prod.mk.inj (got.symm.trans received)).2⟩
    rw [Collector.receive, sound.receiving] at received
    cases waits : scene.ledger.waiting with
    | nil => rfl
    | cons record others =>
      have popped : scene.ledger.collector.workshop.outgoing.waiting = record :: others := waits
      simp only [Outgoing.pop?, popped] at received
      exact absurd (Prod.mk.inj received).1.symm (nothing record)

/-- Pumping is taking turns, until all are `Resting`. The workers must have settled before, as they have after each
reception. -/
theorem Sound.exists_pump (sound : scene.Sound setup before) (still : scene.stage = .waiting)
    (rests : scene.ledger.waiting = [] → scene.ledger.collector.workshop.Resting) :
    ∃ rest, rest.filter Turn.outside = [] ∧ (scene.run rest).Resting
      ∧ Daemon.pump scene.ledger.collector scene.sink
        = ((scene.run rest).ledger.collector, (scene.run rest).sink) := by
  generalize here : scene.ledger.collector = collector
  generalize held : scene.sink = sink
  fun_induction Daemon.pump collector sink generalizing scene with
  | case1 =>
    rename_i record after received taken broken
    subst here held
    exact absurd broken (by simp [taken, (sound.carries.put record).unbroken])
  | case2 =>
    rename_i record after received taken _ _ flushed broken
    subst here held
    exact absurd broken (by simp [flushed, taken, (sound.carries.put record).flush.1.unbroken])
  | case3 =>
    rename_i record after received taken _ last flushed _ ih
    subst here held
    -- The last record was taken: the sink flushes, and the workers settle before it asks again.
    obtain ⟨turns, first, collected, sink, waits⟩ := exists_reception still received
    rw [if_pos last] at sink
    obtain ⟨settling, inner, settled, sameSink, sameStage⟩ := (scene.run turns).exists_settle
    rw [collected] at settled
    obtain ⟨rest, quiet, resting, pumped⟩ := ih ((sound.run turns).run settling) (sameStage.trans waits)
      (fun _ => by rw [settled]; exact after.resting_settle) settled (sameSink.trans sink)
    refine ⟨turns ++ (settling ++ rest), ?_, ?_⟩
    · rw [List.filter_append, List.filter_append, first, inner, quiet]
      rfl
    · rw [run_append, run_append]
      exact ⟨resting, pumped⟩
  | case4 =>
    rename_i record after received taken _ more ih
    subst here held
    obtain ⟨turns, first, collected, sink, waits⟩ := exists_reception still received
    rw [if_neg more] at sink
    -- The workers need not be at rest yet, since the sink has more to take first.
    have remains : (scene.run turns).ledger.waiting ≠ [] := by
      rw [Ledger.waiting, collected]
      exact fun nothing => more (List.isEmpty_iff.2 nothing)
    obtain ⟨rest, quiet, resting, pumped⟩ := ih (sound.run turns) waits
      (fun nothing => absurd nothing remains) collected sink
    refine ⟨turns ++ rest, ?_, ?_⟩
    · rw [List.filter_append, first, quiet]
      rfl
    · rw [run_append]
      exact ⟨resting, pumped⟩
  | case5 =>
    rename_i answer after nothing received
    subst here held
    obtain ⟨empty, rfl⟩ := sound.nothing_received received nothing
    exact ⟨[], rfl, ⟨⟨still, empty⟩, rests empty⟩, rfl⟩

/-! ## The daemon takes turns -/

/-- The daemon of a scene, with its collector and its sink, while it runs. -/
def running (settings : Settings) (scene : Scene) : Daemon :=
  ⟨settings, scene.ledger.collector, .running scene.sink⟩

/-- The daemon of a scene that has been shut down. -/
def closed (settings : Settings) (scene : Scene) : Daemon :=
  ⟨settings, scene.ledger.collector, .finished scene.sink⟩

theorem Sound.exists_run (sound : scene.Sound setup before) (still : scene.stage = .waiting) (settings : Settings) :
    ∃ rest, rest.filter Turn.outside = [] ∧ (scene.run rest).Resting
      ∧ (scene.running settings).run = (scene.run rest).running settings := by
  obtain ⟨settling, inner, settled, sameSink, sameStage⟩ := scene.exists_settle
  have later := sound.run settling
  obtain ⟨rest, quiet, resting, pumped⟩ := later.exists_pump (sameStage.trans still)
    (fun _ => by rw [settled]; exact scene.ledger.collector.resting_settle)
  refine ⟨settling ++ rest, by rw [List.filter_append, inner, quiet]; rfl, ?_⟩
  rw [run_append]
  refine ⟨resting, ?_⟩
  rw [settled, sameSink] at pumped
  simp only [Daemon.run, running, pumped, (later.run rest).carries.unbroken]
  rfl

end Scene

namespace Daemon

theorem build_eq_ok {publish : SocketAddress → Except String Unit} {settings : Settings} {daemon : Daemon}
    (h : build publish settings = .ok daemon) :
    ∃ setup, Collector.build setup = .ok daemon.collector
      ∧ daemon.settings = settings ∧ daemon.output = .held := by
  obtain ⟨_, -, h⟩ := bind_eq_ok_iff.1 h
  obtain ⟨setup, -, h⟩ := bind_eq_ok_iff.1 h
  have made : (Collector.build setup).mapError DaemonError.build
      >>= (fun collector => pure ⟨settings, collector, .held⟩) = Except.ok daemon := by
    dsimp only at h
    split at h
    · obtain ⟨_, -, h⟩ := bind_eq_ok_iff.1 h
      obtain ⟨_, -, h⟩ := bind_eq_ok_iff.1 h
      exact h
    · exact h
  obtain ⟨collector, built, h⟩ := bind_eq_ok_iff.1 made
  rw [← Except.ok.inj h]
  exact ⟨setup, mapError_eq_ok_iff.1 built, rfl, rfl⟩

/-- A daemon that has been started goes on from a collector that has, and a sink that waits: the scene of
`Scene.start`. -/
theorem start_eq_ok {daemon started : Daemon} {network : Network} {writer : Writer} (held : daemon.output = .held)
    (h : daemon.start network writer = (.ok (), started)) :
    started = ((Scene.start daemon.collector network writer).running daemon.settings).run := by
  unfold start at h
  rw [held] at h
  dsimp only at h
  split at h
  case _ => cases h
  case _ collector begun =>
    rw [← (Prod.mk.inj h).2]
    have first : ((Ledger.start daemon.collector).step (.start network)).collector = collector := by
      simp only [Ledger.step, Ledger.start, begun]
    rw [Scene.running, Scene.start, first]

end Daemon

end FlowCollector
