import FlowCollector.Proofs.Collector.Course

/-!
# The life of a collector

Created, started, stopped: a collector goes this way once, and may leave out the middle. What it answers when
it is asked out of turn follows from its phase, and its phase from the moves so far. A consumer that stays reads
the queue to its end whenever the stop came, and learns of the end only there.
-/

set_option autoImplicit false

namespace FlowCollector

/-- True of a reception, whatever it is answered. -/
def Move.receives : Move → Bool
  | .event .receive => true
  | _ => false

namespace Collector

variable {collector : Collector}

/-! ## Out of turn -/

theorem start_of_started (h : collector.phase = .started) (network : Network) :
    collector.start network = .error .alreadyRunning := by
  simp [start, h]

theorem start_of_stopped (h : collector.phase = .stopped) (network : Network) :
    collector.start network = .error .startAfterStop := by
  simp [start, h]

theorem start_of_created (h : collector.phase = .created) (network : Network) :
    (∃ after, collector.start network = .ok after)
      ∨ ∃ error, collector.start network = .error (.collector error) := by
  simp only [start, h]
  cases bindAll network 0 collector.setup.inputs with
  | error error => exact .inr ⟨error, rfl⟩
  | ok addresses => exact .inl ⟨_, rfl⟩

theorem stop_of_stopped (h : collector.phase = .stopped) : collector.stop = collector := by
  simp [stop, h]

theorem arrive_of_stopped (h : collector.phase = .stopped) (index : Nat) (datagram : Datagram) :
    (collector.arrive index datagram).2 = collector := by
  unfold arrive
  split
  · rfl
  · rw [if_neg]
    rw [h]
    nofun

theorem inject_of_not_sending (h : collector.workshop.outgoing.sending = false) (record : FlowRecord) :
    collector.inject record = (.refused, collector) := by
  simp [inject, Outgoing.isOpen, h]

namespace Ended

/-- Of a collector that has `Ended`, the next record that waits is received, or the end. -/
theorem receive (ended : collector.Ended) :
    collector.receive.1 = (collector.workshop.outgoing.waiting.head?.map .record).getD .closed := by
  rcases collector.receive_cases with ⟨record, others, waits, received⟩ | ⟨answer, nothing, received⟩
  · rw [received, waits]
    rfl
  · simp only [Collector.receive, ended.receiving, ended.sending, Outgoing.pop?]
    cases collector.workshop.outgoing.waiting <;> simp

/-- Nothing but a reception changes a collector that was stopped, while the consumer stays: it is `Ended`, and stays
so. -/
theorem move {ledger : Ledger} (ended : ledger.collector.Ended) (stopped : ledger.collector.phase = .stopped)
    {move : Move} (stays : move ≠ .dropReceiver) :
    (ledger.move move).collector = { ledger.collector with
      workshop.outgoing := { ledger.collector.workshop.outgoing with
        waiting := ledger.waiting.drop (if move.receives then 1 else 0) } } := by
  cases move with
  | event event =>
    cases event with
    | start network =>
      simp only [Ledger.move, Ledger.step, start_of_stopped stopped]
      rfl
    | arrive index datagram =>
      simp only [Ledger.move, Ledger.collector_step_arrive, arrive_of_stopped stopped]
      rfl
    | inject record =>
      simp only [Ledger.move, Ledger.collector_step_inject, inject_of_not_sending ended.sending]
      rfl
    | receive =>
      simp only [Ledger.move, Ledger.collector_step_receive, Move.receives, if_true, Ledger.waiting]
      rcases ledger.collector.receive_cases with ⟨record, others, waits, received⟩ | ⟨answer, nothing, received⟩
      · rw [received, waits]
        rfl
      · have none : ledger.collector.workshop.outgoing.waiting = [] := by
          cases waits : ledger.collector.workshop.outgoing.waiting with
          | nil => rfl
          | cons record others =>
            rw [Collector.receive] at received
            simp [ended.receiving, Outgoing.pop?, waits] at received
            exact absurd received.1.symm (nothing record)
        rw [received, none, List.drop_nil, ← none]
    | act act =>
      simp only [Ledger.move, Ledger.step,
        Workshop.perform_of_empty ended.inputs ended.hands ended.senders]
      rfl
  | stop => exact stop_of_stopped stopped
  | dropReceiver => exact absurd rfl stays

theorem course {ledger : Ledger} (ended : ledger.collector.Ended)
    (stopped : ledger.collector.phase = .stopped) {moves : List Move} (stays : .dropReceiver ∉ moves) :
    (ledger.course moves).collector = { ledger.collector with
      workshop.outgoing := { ledger.collector.workshop.outgoing with
        waiting := ledger.waiting.drop (moves.countP Move.receives) } } := by
  induction moves generalizing ledger with
  | nil => rfl
  | cons move others ih =>
    obtain ⟨first, rest⟩ := not_or.1 (mt List.mem_cons.2 stays)
    have moved := ended.move stopped (Ne.symm first)
    have still : (ledger.move move).collector.Ended := by
      rw [moved]
      exact ended.withWaiting _
    have phase : (ledger.move move).collector.phase = .stopped := by
      rw [moved]
      exact stopped
    have later := ih still phase rest
    have left : (ledger.move move).waiting = ledger.waiting.drop (if move.receives then 1 else 0) := by
      rw [Ledger.waiting, moved]
    rw [left, List.drop_drop, moved, Nat.add_comm] at later
    rw [List.countP_cons]
    exact later

/-- Every reception after a stop gives the next of the records that waited, and those beyond give the end. Their
number is that of `Move.receives` so far. -/
theorem receive_course {ledger : Ledger} (ended : ledger.collector.Ended)
    (stopped : ledger.collector.phase = .stopped) {moves : List Move} (stays : .dropReceiver ∉ moves) :
    (ledger.course moves).collector.receive.1
      = (ledger.waiting[moves.countP Move.receives]?.map .record).getD .closed := by
  have left := ended.course stopped stays
  have still : (ledger.course moves).collector.Ended := by
    rw [left]
    exact ended.withWaiting _
  rw [still.receive, left, List.head?_drop]

end Ended

end Collector

namespace Ledger

variable {ledger : Ledger}

/-! ## From phase to phase -/

theorem phase_move (ledger : Ledger) (move : Move) :
    (ledger.move move).collector.phase = ledger.collector.phase
      ∨ ledger.collector.phase = .created ∧ (ledger.move move).collector.phase = .started
        ∧ (∃ network, move = .event (.start network))
      ∨ ledger.collector.phase ≠ .stopped ∧ (ledger.move move).collector.phase = .stopped
        ∧ move = .stop := by
  cases move with
  | event event =>
    rcases (ledger.change_step event).phase with same | ⟨created, started, network, rfl⟩
    · exact .inl same
    · exact .inr (.inl ⟨created, started, network, rfl⟩)
  | stop =>
    have stopped : (ledger.move .stop).collector.phase = .stopped := phase_stop ledger.collector
    by_cases before : ledger.collector.phase = .stopped
    · exact .inl (stopped.trans before.symm)
    · exact .inr (.inr ⟨before, stopped, rfl⟩)
  | dropReceiver => exact .inl rfl

/-- A collector that was started, or stopped, never gets back to `Phase.created`, where it could be started. -/
theorem kept_begun : Kept fun ledger => ledger.collector.phase ≠ .created where
  step := by
    intro ledger begun event
    rcases (ledger.change_step event).phase with same | ⟨created, -⟩
    · rwa [same]
    · exact absurd created begun
  stop := by
    intro ledger _ _
    simp [phase_stop]
  dropReceiver := fun begun => begun

theorem start_of_begun {collector : Collector} (begun : collector.phase ≠ .created) (network : Network) :
    ∃ failure, collector.start network = .error failure := by
  cases phase : collector.phase with
  | created => exact absurd phase begun
  | started => exact ⟨_, Collector.start_of_started phase network⟩
  | stopped => exact ⟨_, Collector.start_of_stopped phase network⟩

/-- After a start that succeeded no start does, whatever happens in between, since `kept_begun` holds from there
on. -/
theorem start_of_start {network : Network} {after : Collector}
    (h : ledger.collector.start network = .ok after) (later : List Move) (again : Network) :
    ∃ failure, ((ledger.move (.event (.start network))).course later).collector.start again
      = .error failure := by
  obtain ⟨-, _, running⟩ := Collector.start_eq_ok h
  apply start_of_begun
  apply kept_begun.course
  simp [move, step, h, running]

/-- What `Collector.start` answers, by `Phase`: done or the reason in the first, an error of its own in each of the
others. -/
theorem answer_start (collector : Collector) (network : Network) :
    match collector.phase with
    | .created => (∃ after, collector.answer (.start network) = (.done, after) ∧ after.phase = .started)
        ∨ ∃ error, collector.answer (.start network) = (.failed (.collector error), collector)
    | .started => collector.answer (.start network) = (.failed .alreadyRunning, collector)
    | .stopped => collector.answer (.start network) = (.failed .startAfterStop, collector) := by
  cases phase : collector.phase with
  | created =>
    rcases Collector.start_of_created phase network with ⟨after, started⟩ | ⟨error, failed⟩
    · obtain ⟨-, _, running⟩ := Collector.start_eq_ok started
      exact .inl ⟨after, by simp only [Collector.answer, started], by rw [running]⟩
    · exact .inr ⟨error, by simp only [Collector.answer, failed]⟩
  | started => simp only [Collector.answer, Collector.start_of_started phase]
  | stopped => simp only [Collector.answer, Collector.start_of_stopped phase]

/-! ## Stopping -/

/-- Stopping leaves what waits when the workers have settled, which is what `Collector.stop` begins with. -/
theorem waiting_stop (staged : ledger.collector.Staged) :
    (ledger.move .stop).waiting = ledger.collector.settle.workshop.outgoing.waiting := by
  show ledger.collector.stop.workshop.outgoing.waiting = _
  cases phase : ledger.collector.phase with
  | started =>
    simp only [Collector.stop, phase]
    rfl
  | created =>
    rw [staged.settle_of_idle (by simp [phase])]
    simp only [Collector.stop, phase, Outgoing.close]
  | stopped => rw [staged.settle_of_idle (by simp [phase]), Collector.stop_of_stopped phase]

/-- Only a queue into which nobody sends any more tells its end, and until a stop somebody can (`Staged`). -/
theorem phase_of_receive_closed {collector : Collector} (staged : collector.Staged)
    (h : collector.receive.1 = .closed) : collector.phase = .stopped := by
  unfold Collector.receive at h
  split at h
  · cases h
  · split at h
    · cases h
    · split at h
      · cases h
      case _ silent =>
        by_contra running
        exact silent (staged.sending.2 running)

end Ledger

/-- Whatever happens to a collector of a `Setup` that passes, in any order. Its `Phase` goes on from created to
started by a start, and from either to stopped by a stop, and in no other way. A start can succeed until one did; it
says why it does not, and changes nothing then. A stop is always done, and the next one changes nothing. Once stopped,
a collector refuses records, and a consumer that stays receives what waited when the workers had settled
(`Collector.settle`), in its order, and then `Received.closed` for good, which it never hears before. -/
theorem collector_lifecycle {setup : Setup} {collector : Collector}
    (accepted : Collector.build setup = .ok collector) (moves : List Move) :
    let ledger := (Ledger.start collector).course moves
    let now := ledger.collector
    collector.phase = .created
      ∧ (now.phase = .stopped ↔ .stop ∈ moves)
      ∧ (∀ move, let next := (ledger.move move).collector
          next.phase = now.phase
            ∨ now.phase = .created ∧ next.phase = .started ∧ (∃ network, move = .event (.start network))
            ∨ now.phase ≠ .stopped ∧ next.phase = .stopped ∧ move = .stop)
      ∧ (∀ network,
          match now.phase with
          | .created => (∃ after, now.answer (.start network) = (.done, after) ∧ after.phase = .started)
              ∨ ∃ error, now.answer (.start network) = (.failed (.collector error), now)
          | .started => now.answer (.start network) = (.failed .alreadyRunning, now)
          | .stopped => now.answer (.start network) = (.failed .startAfterStop, now))
      ∧ (∀ network after, now.start network = .ok after → ∀ later again, ∃ failure,
          ((ledger.move (.event (.start network))).course later).collector.start again = .error failure)
      ∧ now.answer .stop = (.done, now.stop) ∧ now.stop.phase = .stopped
      ∧ ledger.waiting <+: (ledger.move .stop).waiting
      ∧ (ledger.move .stop).waiting = now.settle.workshop.outgoing.waiting
      ∧ (.stop ∈ moves → now.stop = now
          ∧ ∀ record, now.answer (.inject record) = (.injection .refused, now))
      ∧ Injection.refused.error? = some .outgoingClosed
      ∧ (.stop ∈ moves → .dropReceiver ∉ moves →
          (∀ later, .dropReceiver ∉ later → (ledger.course later).collector.receive.1
            = (ledger.waiting[later.countP Move.receives]?.map .record).getD .closed)
          ∧ ∃ last, now.drain = (ledger.waiting, .closed, last))
      ∧ (now.receive.1 = .closed → .stop ∈ moves) := by
  intro ledger now
  obtain ⟨-, built⟩ := Collector.build_eq_ok accepted
  have staged : now.Staged := Ledger.kept_staged.course (Ledger.staged_start accepted) moves
  have created : collector.phase = .created := by
    rw [built]
    rfl
  have phase : now.phase = .stopped ↔ .stop ∈ moves := by
    rw [Ledger.phase_course_eq_stopped_iff, Ledger.start, created]
    simp
  refine ⟨created, phase, ledger.phase_move, Ledger.answer_start now, ?_, rfl, Ledger.phase_stop now, ?_,
    Ledger.waiting_stop staged, ?_, rfl, ?_, ?_⟩
  · intro network after started
    exact Ledger.start_of_start started
  · rw [Ledger.waiting_stop staged]
    exact now.workshop.waiting_isPrefix_settle
  · intro stopped
    refine ⟨Collector.stop_of_stopped (phase.2 stopped), ?_⟩
    intro record
    have closed : now.workshop.outgoing.sending = false := by
      rw [← Bool.not_eq_true, staged.sending]
      exact fun running => running (phase.2 stopped)
    simp only [Collector.answer, Collector.inject_of_not_sending closed]
  · intro stopped stays
    have ended : now.Ended :=
      Ledger.ended_course (Ledger.staged_start accepted) (by rw [built]; rfl) stopped stays
    exact ⟨fun later staysOn => ended.receive_course (phase.2 stopped) staysOn, ended.drain⟩
  · intro heard
    exact phase.1 (Ledger.phase_of_receive_closed staged heard)

/-- A queue of one place, and a worker that waits with its second record when the collector is stopped: the first
record is received, then the end, and the collector cannot be started again. -/
theorem collector_lifecycle_stopped_while_sending :
    let setup : Setup := ⟨[⟨.netflow, .v4 ⟨127, 0, 0, 1⟩ 0, 1, 4, 1⟩], 1, 1⟩
    let double : Datagram := ⟨.v4 ⟨192, 0, 2, 1⟩ 9995, 0, [0, 5, 0, 2] ++ List.replicate 116 0⟩
    let moves : List Move := [.event (.start fun _ address => .ok address), .event (.arrive 0 double),
      .event (.act (.take 0)), .event (.act (.work 0)), .event (.act (.work 0)),
      .event (.act (.send 0)), .event (.act (.work 0))]
    let before := (Ledger.start (.create setup)).course moves
    let ledger := before.move .stop
    Collector.build setup = .ok (.create setup) ∧ .stop ∈ moves ++ [.stop]
      ∧ .dropReceiver ∉ moves ++ [.stop]
      ∧ (before.waiting.length, before.held.map List.length) = (1, [1])
      ∧ ledger.waiting = before.waiting
      ∧ ledger.collector.receive.1 = (before.waiting.head?.map .record).getD .closed
      ∧ (ledger.course [.event .receive]).collector.receive.1 = .closed
      ∧ ∀ record, ledger.collector.answer (.inject record) = (.injection .refused, ledger.collector) := by
  intro setup double moves before ledger
  have built : Collector.build setup = .ok (.create setup) := rfl
  have begun : (Ledger.start (.create setup)).course moves = before := rfl
  have still : before.collector.workshop.act?.isNone = true := by decide +kernel
  have sizes : (before.waiting.length, before.held.map List.length) = (1, [1]) := by decide +kernel
  have stopped : Move.stop ∈ moves ++ [.stop] := List.mem_append_right _ List.mem_cons_self
  have stays : Move.dropReceiver ∉ moves ++ [.stop] := by simp [moves]
  clear_value before
  obtain ⟨-, -, -, -, -, -, -, -, left, -⟩ := collector_lifecycle built moves
  obtain ⟨-, -, -, -, -, -, -, -, -, refuses, -, reads, -⟩ :=
    collector_lifecycle built (moves ++ [.stop])
  have ended : before.course [.stop] = ledger := rfl
  rw [Ledger.course_append, begun, ended] at refuses reads
  rw [begun, Collector.settle, Workshop.settle_of_act_none (Option.isNone_iff_eq_none.1 still)] at left
  have left : ledger.waiting = before.waiting := left
  obtain ⟨received, -⟩ := reads stopped stays
  refine ⟨built, stopped, stays, sizes, left, ?_, ?_, (refuses stopped).2⟩
  · have first := received [] List.not_mem_nil
    rw [List.countP_nil, ← List.head?_eq_getElem?] at first
    exact first.trans (by rw [left])
  · have last := received [.event .receive] (by simp)
    have once : [Move.event .receive].countP Move.receives = 1 := rfl
    have short : ledger.waiting.length ≤ 1 :=
      Nat.le_of_eq ((congrArg List.length left).trans (Prod.mk.inj sizes).1)
    rw [once, List.getElem?_eq_none short] at last
    exact last

end FlowCollector
