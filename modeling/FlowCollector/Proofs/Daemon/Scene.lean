import FlowCollector.Daemon
import FlowCollector.Proofs.Collector.Accounts
import FlowCollector.Proofs.Collector.Backpressure
import FlowCollector.Proofs.Collector.Lifecycle
import FlowCollector.Proofs.Sink

/-!
# Workers and sink, turn by turn

A daemon that runs is several tasks at once: whoever brings datagrams, the workers, the sink, and whoever stops it. A
`Scene` is what they share, and a `Turn` is what one of them does before another may go on. The sink takes a record
(`Turn.take`), looks afterwards whether more wait (`Turn.look`), and writes what it has gathered if none does
(`Turn.flush`), so a worker can put a record there in between. Every order of turns is some list of them.

A slow writer is a sink whose turns are late: while the sink is at `Stage.looking` or `Stage.flushing`, all others may go
on, until they wait for a place in the queue. A stop waits for the workers, which is `Turn.stop`, but only until the
drain timeout has elapsed. It gives up then, which is `Turn.giveUp`: what is `Ledger.unfinished` is lost, and the scene
keeps it in `Scene.lost`. When that is, is left open, so a stop may give up at any moment.

What each turn keeps is said once, in `Scene.Sound`. What has been written and what has been lost follows from that in
two places: where the sink waits (`Sound.content_eq`), and where nobody has anything left to do (`Sound.balanced`).
-/

set_option autoImplicit false

namespace FlowCollector

open scoped List

/-- True when nobody has anything to do, and nobody waits for a place: the workers whom `Collector.stop` joins have
come to their end. -/
def Workshop.finished (workshop : Workshop) : Bool :=
  workshop.act?.isNone && workshop.outgoing.senders.isEmpty

/-- What one of the tasks of a daemon does before another may go on. -/
inductive Turn where
  | arrive (index : Nat) (datagram : Datagram)
  | act (act : Act)
  /-- A sink that waits takes a record and gathers its line, `Sink.put`. -/
  | take
  /-- The sink looks whether more records wait, once it is done with the one it took. -/
  | look
  /-- The sink has written what it has gathered, `Sink.flush`, after it saw that no record waits. -/
  | flush
  /-- The stop is done by `Collector.stop`, if the workers have finished. -/
  | stop
  /-- The drain timeout has elapsed: a stop of a running collector gives up, `Collector.giveUp`. It gives all of its
  workers up in one turn; those that would be done before the timeout may take their turns first. -/
  | giveUp

/-- True of what happens only when somebody outside asks for it, or time has run out. The other turns go on by
themselves. -/
def Turn.outside : Turn → Bool
  | arrive _ _ => true
  | stop => true
  | giveUp => true
  | _ => false

/-- Where the sink is between one record and the next. It takes one only while it is `waiting`. -/
inductive Stage where
  /-- It waits for a record. -/
  | waiting
  /-- It has taken a record, and has not yet looked for more. -/
  | looking
  /-- It has seen that none waits, and its writer is not done yet with what was gathered. `Turn.flush` is when it
  is. -/
  | flushing
  deriving DecidableEq, Repr

/-- What is lost when a collector gives up, datagrams and records apart. -/
structure Losses where
  /-- The datagrams that waited for a worker, or for being decoded by the worker that had taken them. -/
  datagrams : List (Nat × Datagram)
  /-- The records that workers held, a list for each of the workers. -/
  records : List (List FlowRecord)
  deriving DecidableEq

/-- Nothing is lost, which is so unless a `Turn.giveUp` was taken. -/
def Losses.none : Losses := ⟨[], []⟩

/-- What the workers of a collector have not finished, `queued`, `grasped` and `held`, and what `Collector.giveUp`
would lose now. -/
def Ledger.unfinished (ledger : Ledger) : Losses where
  datagrams := ledger.collector.workshop.queued ++ ledger.collector.workshop.grasped
  records := ledger.held

/-- A running daemon whose writer takes all that it is given: the collector with its ledger, the sink with its
`Stage`, and what was lost. -/
structure Scene where
  ledger : Ledger
  sink : Sink
  stage : Stage
  /-- What was `Ledger.unfinished` when the collector gave up, if it did. -/
  lost : Losses

namespace Scene

/-- A collector that has just been started, a sink that waits, and nothing lost. -/
def start (collector : Collector) (network : Network) (writer : Writer) : Scene where
  ledger := (Ledger.start collector).step (.start network)
  sink := .start Daemon.bufferSize writer
  stage := .waiting
  lost := .none

/-- What comes of a turn. One that cannot be taken changes nothing: a `stop` before the workers have finished, or a
`take` while the sink is busy. -/
def step (scene : Scene) : Turn → Scene
  | .arrive index datagram => { scene with ledger := scene.ledger.step (.arrive index datagram) }
  | .act act => { scene with ledger := scene.ledger.step (.act act) }
  | .take =>
    if scene.stage = .waiting then
      match scene.ledger.collector.receive with
      | (.record record, _) =>
        { scene with ledger := scene.ledger.step .receive, sink := scene.sink.put record, stage := .looking }
      | _ => scene
    else scene
  | .look =>
    if scene.stage = .looking then
      { scene with stage := if scene.ledger.waiting.isEmpty then .flushing else .waiting }
    else scene
  | .flush =>
    if scene.stage = .flushing then { scene with sink := scene.sink.flush, stage := .waiting } else scene
  | .stop =>
    if scene.ledger.collector.workshop.finished then
      { scene with ledger := { scene.ledger with collector := scene.ledger.collector.stop } }
    else scene
  | .giveUp =>
    if scene.ledger.collector.phase = .started then
      { scene with
        ledger := { scene.ledger with collector := scene.ledger.collector.giveUp }
        lost := scene.ledger.unfinished }
    else scene

/-- What comes of turns, one `step` after another. -/
def run (scene : Scene) (turns : List Turn) : Scene := turns.foldl step scene

theorem run_append (scene : Scene) (turns others : List Turn) :
    scene.run (turns ++ others) = (scene.run turns).run others :=
  List.foldl_append

/-- The sink waits for a record, and none has come. -/
structure Idle (scene : Scene) : Prop where
  still : scene.stage = .waiting
  nothing : scene.ledger.waiting = []

/-- All of them wait: the sink is `Idle`, and the workshop is at rest. -/
structure Resting (scene : Scene) : Prop where
  idle : scene.Idle
  workers : scene.ledger.collector.workshop.Resting

/-- What was accepted has been decoded, except for `Scene.lost`, and of each datagram's records the first have been
written, in their order, except for the others, which are in `Scene.lost`. There is one line for each record that was
received, behind what the writer held before, and the sink has counted those. -/
structure Balanced (before : String) (scene : Scene) : Prop where
  custody : scene.ledger.accepted ~ scene.ledger.decoded.map Decoding.arrival ++ scene.lost.datagrams
  shares : ∃ shares : List Share, shares.map Share.whole = scene.ledger.records
    ∧ Interleaving (shares.map Share.sent) scene.ledger.received
    ∧ nonempty scene.lost.records ~ nonempty (shares.map Share.unsent)
  content : scene.sink.writer.content = before ++ Sink.lines scene.ledger.received
  count : scene.sink.written = scene.ledger.received.length
  counted : scene.ledger.collector.stats.recordsDecoded = scene.sink.written + scene.lost.records.flatten.length

/-- All that was accepted has been decoded, and all records of that have been written behind what the writer held
before: a line for each, those of each datagram in their order. -/
structure Written (before : String) (scene : Scene) : Prop where
  decoded : scene.ledger.decoded.map Decoding.arrival ~ scene.ledger.accepted
  merged : Interleaving scene.ledger.records scene.ledger.received
  content : scene.sink.writer.content = before ++ Sink.lines scene.ledger.received
  count : scene.sink.written = scene.ledger.records.flatten.length
  counted : scene.sink.written = scene.ledger.collector.stats.recordsDecoded

end Scene

/-! ## What the consumer does not see -/

namespace Ledger

variable {ledger after : Ledger}

/-- The consumer has read nothing in between. More may wait for it, and less may be left with the workers. -/
structure Unread (ledger after : Ledger) : Prop where
  received : after.received = ledger.received
  injected : after.injected = ledger.injected
  waiting : ledger.waiting <+: after.waiting

theorem unread_start (collector : Collector) (network : Network) :
    (start collector).Unread ((start collector).step (.start network)) := by
  simp only [step]
  cases started : (start collector).collector.start network with
  | error _ => exact ⟨rfl, rfl, List.prefix_rfl⟩
  | ok _ =>
    obtain ⟨-, _, rfl⟩ := Collector.start_eq_ok started
    exact ⟨rfl, rfl, List.prefix_rfl⟩

theorem unread_arrive (ledger : Ledger) (index : Nat) (datagram : Datagram) :
    ledger.Unread (ledger.step (.arrive index datagram)) := by
  rcases ledger.collector.arrive_cases index datagram with
    ⟨input, -, -, -, arrived⟩ | ⟨answer, monitor, -, arrived⟩
  · simp only [step, arrived]
    exact ⟨rfl, rfl, List.prefix_rfl⟩
  · simp only [step, arrived]
    cases answer <;> exact ⟨rfl, rfl, List.prefix_rfl⟩

theorem unread_act (ledger : Ledger) (act : Act) : ledger.Unread (ledger.step (.act act)) := by
  cases performed : ledger.collector.workshop.perform? act with
  | none =>
    simp only [step, performed]
    exact ⟨rfl, rfl, List.prefix_rfl⟩
  | some workshop =>
    rw [step_act performed]
    exact ⟨rfl, rfl, Workshop.waiting_isPrefix_perform performed⟩

/-! ## After a stop -/

/-- Nobody is left but the consumer (`Collector.Ended`). What was accepted was decoded, and all of that is in the
queue or received, except for what was lost. -/
structure Concluded (ledger : Ledger) (lost : Losses) : Prop where
  ended : ledger.collector.Ended
  stopped : ledger.collector.phase = .stopped
  custody : ledger.accepted ~ ledger.decoded.map Decoding.arrival ++ lost.datagrams
  delivered : ledger.Delivered lost.records

namespace Concluded

variable {lost : Losses}

theorem arrive_eq (concluded : ledger.Concluded lost) (index : Nat) (datagram : Datagram) :
    ledger.step (.arrive index datagram) = ledger := by
  rcases ledger.collector.arrive_outcome index datagram with
    ⟨input, started, -⟩ | ⟨answer, taken, -, arrived⟩
  · exact absurd (concluded.stopped.symm.trans started) (by decide)
  · simp only [step, arrived]

theorem perform_eq (concluded : ledger.Concluded lost) : ledger.collector.workshop.Resting := by
  intro act
  exact Workshop.perform_of_empty concluded.ended.inputs concluded.ended.hands concluded.ended.senders

theorem act_eq (concluded : ledger.Concluded lost) (act : Act) : ledger.step (.act act) = ledger := by
  simp only [step, concluded.perform_eq act]

theorem receive (concluded : ledger.Concluded lost) : (ledger.step .receive).Concluded lost := by
  obtain ⟨ended, stopped, custody, shares, whole, merged, unsent⟩ := concluded
  rcases ledger.collector.receive_cases with ⟨record, others, waits, received⟩ | ⟨answer, nothing, received⟩
  · simp only [step, received]
    refine ⟨ended.withWaiting others, stopped, custody, shares, whole, ?_, unsent⟩
    rw [waiting, waits] at merged
    show Interleaving (ledger.injected :: _) (ledger.received ++ [record] ++ others)
    rw [List.append_assoc]
    exact merged
  · simp only [step, received]
    cases answer with
    | record record => exact absurd rfl (nothing record)
    | _ => exact ⟨ended, stopped, custody, shares, whole, merged, unsent⟩

end Concluded

/-- Giving up loses what is `unfinished`, and nothing else: the shares of `Attributed` stay, only nobody has their
unsent part any more. -/
theorem Sound.giveUp (sound : ledger.Sound) :
    Concluded { ledger with collector := ledger.collector.giveUp } ledger.unfinished :=
  ⟨⟨rfl, rfl, rfl, rfl, sound.unhindered.receiving⟩, rfl, sound.custody, attributed_iff.1 sound.attributed⟩

/-- Workers that have finished leave nothing behind when they are stopped. -/
theorem Sound.conclude (sound : ledger.Sound) (finished : ledger.collector.workshop.finished = true) :
    Concluded { ledger with collector := ledger.collector.stop } .none
      ∧ ledger.collector.stop.workshop.outgoing.waiting = ledger.waiting := by
  obtain ⟨still, free⟩ := Bool.and_eq_true_iff.1 finished
  have still : ledger.collector.workshop.act? = none := Option.isNone_iff_eq_none.1 still
  have free : ledger.collector.workshop.outgoing.senders = [] := List.isEmpty_iff.1 free
  have settled : ledger.collector.settle = ledger.collector :=
    Collector.settle_of_resting (Workshop.act_eq_none_iff.1 still)
  obtain ⟨ended, waiting⟩ := sound.unhindered.stop (by rw [settled]; exact sound.unhindered)
  rw [settled] at waiting
  refine ⟨⟨ended, phase_stop _, ?_, ?_⟩, waiting⟩
  · rw [Losses.none, List.append_nil]
    exact (sound.finished still free).1.symm
  · obtain ⟨shares, whole, merged, unsent⟩ := sound.attributed
    rw [held_of_finished still free] at unsent
    refine ⟨shares, whole, ?_, unsent⟩
    show Interleaving _ (ledger.received ++ ledger.collector.stop.workshop.outgoing.waiting)
    rw [waiting]
    exact merged

end Ledger

/-! ## What every turn keeps -/

namespace Scene

variable {setup : Setup} {before : String} {scene : Scene}

/-- What every turn keeps: the laws of the ledger before and after the end, and what the sink has of what was
received. -/
structure Sound (setup : Setup) (before : String) (scene : Scene) : Prop where
  /-- Until the collector is stopped nothing is lost, and then it is known what. -/
  course : scene.ledger.Sound ∧ scene.lost = .none ∨ scene.ledger.Concluded scene.lost
  fits : scene.ledger.collector.workshop.outgoing.Fits setup.outgoingQueueSize.toNat
  accounted : scene.ledger.Accounted setup
  injected : scene.ledger.injected = []
  carries : scene.sink.Carries (before ++ Sink.lines scene.ledger.received) scene.ledger.received.length
  /-- Where the sink waits, it has gathered nothing. -/
  flushed : scene.Idle → scene.sink.buffer = ""

theorem sound_start {collector : Collector} (built : Collector.build setup = .ok collector) (network : Network)
    {writer : Writer} (unlimited : writer.limit = none) :
    (start collector network writer).Sound setup writer.content := by
  have begun := Ledger.unread_start collector network
  refine ⟨.inl ⟨(Ledger.sound_start built).step (.start network), rfl⟩,
    (Ledger.kept_fits _).step (Ledger.fits_start built) (.start network),
    (Ledger.kept_accounted setup).step (Ledger.accounted_start built) (.start network), begun.injected, ?_,
    fun _ => rfl⟩
  have nothing : (start collector network writer).ledger.received = [] := begun.received
  rw [nothing, Sink.lines, String.append_empty]
  exact Sink.carries_start _ unlimited

/-- While the consumer reads nothing, the sink has nothing to do with what happens, so only the laws of the ledger are
to be shown anew. -/
theorem Sound.unread {ledger : Ledger} {lost : Losses} (sound : scene.Sound setup before)
    (unread : scene.ledger.Unread ledger) (course : ledger.Sound ∧ lost = .none ∨ ledger.Concluded lost)
    (fits : ledger.collector.workshop.outgoing.Fits setup.outgoingQueueSize.toNat)
    (accounted : ledger.Accounted setup) : Sound setup before { scene with ledger, lost } := by
  refine ⟨course, fits, accounted, unread.injected.trans sound.injected, ?_, ?_⟩
  · rw [unread.received]
    exact sound.carries
  · intro idle
    -- If nothing waits now, nothing has waited before.
    have waiting : scene.ledger.waiting <+: [] := by
      rw [← idle.nothing]
      exact unread.waiting
    exact sound.flushed ⟨idle.still, List.prefix_nil.1 waiting⟩

theorem Sound.arrive (sound : scene.Sound setup before) (index : Nat) (datagram : Datagram) :
    (scene.step (.arrive index datagram)).Sound setup before := by
  refine sound.unread (scene.ledger.unread_arrive index datagram) ?_ ((Ledger.kept_fits _).step sound.fits _)
    ((Ledger.kept_accounted setup).step sound.accounted _)
  rcases sound.course with ⟨running, nothing⟩ | concluded
  · exact .inl ⟨running.step _, nothing⟩
  · rw [concluded.arrive_eq]
    exact .inr concluded

theorem Sound.act (sound : scene.Sound setup before) (act : Act) :
    (scene.step (.act act)).Sound setup before := by
  refine sound.unread (scene.ledger.unread_act act) ?_ ((Ledger.kept_fits _).step sound.fits _)
    ((Ledger.kept_accounted setup).step sound.accounted _)
  rcases sound.course with ⟨running, nothing⟩ | concluded
  · exact .inl ⟨running.step _, nothing⟩
  · rw [concluded.act_eq]
    exact .inr concluded

/-- What `step` does when the sink waits and a record does too. -/
theorem step_take {record : FlowRecord} {after : Collector}
    (still : scene.stage = .waiting) (waits : scene.ledger.collector.receive = (.record record, after)) :
    scene.step .take
      = { scene with ledger := scene.ledger.step .receive, sink := scene.sink.put record, stage := .looking } := by
  simp only [step, still, waits, if_true]

/-- What `step` does when the writer of the sink gets done. -/
theorem step_flush (pending : scene.stage = .flushing) :
    scene.step .flush = { scene with sink := scene.sink.flush, stage := .waiting } :=
  if_pos pending

theorem Sound.take (sound : scene.Sound setup before) : (scene.step .take).Sound setup before := by
  simp only [step]
  split
  case isFalse => exact sound
  split
  case _ record after received =>
    have one : scene.ledger.step .receive = { scene.ledger with
        collector := after, received := scene.ledger.received ++ [record] } := by
      simp only [Ledger.step, received]
    have course :=
      sound.course.imp (And.imp_left fun running => running.step .receive) fun concluded => concluded.receive
    refine ⟨course, (Ledger.kept_fits _).step sound.fits .receive,
      (Ledger.kept_accounted setup).step sound.accounted .receive, ?_, ?_, ?_⟩
    · rw [one]
      exact sound.injected
    · rw [one]
      simp only [Sink.lines_append, Sink.lines_singleton, ← String.append_assoc, List.length_append,
        List.length_singleton]
      exact sound.carries.put record
    · intro idle
      cases idle.still
  · exact sound

theorem Sound.look (sound : scene.Sound setup before) : (scene.step .look).Sound setup before := by
  have ⟨course, fits, accounted, injected, carries, flushed⟩ := sound
  simp only [step]
  split
  · refine ⟨course, fits, accounted, injected, carries, ?_⟩
    -- Either a record waits, or the sink does not yet.
    rintro ⟨still, nothing⟩
    have nothing : scene.ledger.waiting.isEmpty = true := List.isEmpty_iff.2 nothing
    simp only [nothing, if_true] at still
    cases still
  · exact sound

theorem Sound.flush (sound : scene.Sound setup before) : (scene.step .flush).Sound setup before := by
  have ⟨course, fits, accounted, injected, carries, flushed⟩ := sound
  simp only [step]
  split
  · obtain ⟨kept, emptied⟩ := carries.flush
    exact ⟨course, fits, accounted, injected, kept, fun _ => emptied⟩
  · exact sound

theorem Sound.stop (sound : scene.Sound setup before) : (scene.step .stop).Sound setup before := by
  simp only [step]
  split
  case isFalse => exact sound
  case isTrue finished =>
    have resting : scene.ledger.collector.workshop.Resting :=
      Workshop.act_eq_none_iff.1 (Option.isNone_iff_eq_none.1 (Bool.and_eq_true_iff.1 finished).1)
    have fits := (Ledger.kept_fits _).stop sound.fits fun _ => resting
    have accounted := (Ledger.kept_accounted setup).stop sound.accounted fun _ => resting
    rcases sound.course with ⟨running, nothing⟩ | concluded
    · -- What waits stays where it is, and the sink sees nothing of the stop until it has taken all of it.
      obtain ⟨concluded, waiting⟩ := running.conclude finished
      rw [← nothing] at concluded
      exact sound.unread ⟨rfl, rfl, by rw [← waiting]; exact List.prefix_rfl⟩ (.inr concluded) fits accounted
    · have same := Collector.stop_of_stopped concluded.stopped
      rw [same]
      exact sound

theorem Sound.giveUp (sound : scene.Sound setup before) : (scene.step .giveUp).Sound setup before := by
  simp only [step]
  split
  case isFalse => exact sound
  case isTrue started =>
    rcases sound.course with ⟨running, -⟩ | concluded
    · exact sound.unread ⟨rfl, rfl, List.prefix_rfl⟩ (.inr running.giveUp) ⟨sound.fits.capacity, sound.fits.within⟩
        (sound.accounted.frame rfl (Nat.zero_le _) (.inr ⟨0, rfl⟩) rfl rfl)
    · exact absurd (concluded.stopped.symm.trans started) (by decide)

/-- Every turn keeps all that: one case for each `Turn`, of which those of workers and arrivals leave the sink alone
(`Sound.unread`). -/
theorem Sound.step (sound : scene.Sound setup before) (turn : Turn) : (scene.step turn).Sound setup before := by
  cases turn with
  | arrive index datagram => exact sound.arrive index datagram
  | act act => exact sound.act act
  | take => exact sound.take
  | look => exact sound.look
  | flush => exact sound.flush
  | stop => exact sound.stop
  | giveUp => exact sound.giveUp

theorem Sound.run (sound : scene.Sound setup before) (turns : List Turn) : (scene.run turns).Sound setup before := by
  induction turns generalizing scene with
  | nil => exact sound
  | cons turn others ih => exact ih (sound.step turn)

/-- Whenever the sink is `Idle`, all that it has taken has been written, behind what the writer held `before`. -/
theorem Sound.content_eq (sound : scene.Sound setup before) (idle : scene.Idle) :
    scene.sink.writer.content = before ++ Sink.lines scene.ledger.received :=
  sound.carries.content_eq (sound.flushed idle)

theorem Sound.receiving (sound : scene.Sound setup before) :
    scene.ledger.collector.workshop.outgoing.receiving = true := by
  rcases sound.course with ⟨running, -⟩ | concluded
  · exact running.unhindered.receiving
  · exact concluded.ended.receiving

/-- Where all wait, the workers have `finished`, since every place of the queue is free. -/
theorem Sound.finished (sound : scene.Sound setup before) (size : 0 < setup.outgoingQueueSize.toNat)
    (resting : scene.Resting) : scene.ledger.collector.workshop.finished = true := by
  have still := Workshop.act_eq_none_iff.2 resting.workers
  have free : scene.ledger.collector.workshop.outgoing.senders = [] := by
    by_contra waits
    have full := resting.workers.free waits
    have nothing : scene.ledger.collector.workshop.outgoing.waiting = [] := resting.idle.nothing
    rw [Outgoing.free, sound.fits.capacity, nothing, List.length_nil] at full
    omega
  rw [Workshop.finished, still, free]
  rfl

/-- Where all wait, nothing is under way: what was accepted and not decoded is in `Scene.lost`, and so is what was
decoded and not received. -/
theorem Sound.settled (sound : scene.Sound setup before) (size : 0 < setup.outgoingQueueSize.toNat)
    (resting : scene.Resting) :
    scene.ledger.accepted ~ scene.ledger.decoded.map Decoding.arrival ++ scene.lost.datagrams
      ∧ scene.ledger.Delivered scene.lost.records := by
  rcases sound.course with ⟨running, nothing⟩ | concluded
  · obtain ⟨still, free⟩ := Bool.and_eq_true_iff.1 (sound.finished size resting)
    have still := Option.isNone_iff_eq_none.1 still
    have free := List.isEmpty_iff.1 free
    have delivered := Ledger.attributed_iff.1 running.attributed
    rw [Ledger.held_of_finished still free] at delivered
    rw [nothing, Losses.none, List.append_nil]
    exact ⟨(running.finished still free).1.symm, delivered⟩
  · exact ⟨concluded.custody, concluded.delivered⟩

/-- Where all wait, what was not lost has been written, so the scene is `Balanced`. -/
theorem Sound.balanced (sound : scene.Sound setup before) (size : 0 < setup.outgoingQueueSize.toNat)
    (resting : scene.Resting) : scene.Balanced before := by
  obtain ⟨custody, delivered⟩ := sound.settled size resting
  have conserved := delivered.conserved.length_eq
  obtain ⟨shares, whole, merged, unsent⟩ := delivered
  rw [resting.idle.nothing, List.append_nil] at merged conserved
  rw [sound.injected, List.append_nil, List.length_append] at conserved
  rw [sound.injected] at merged
  refine ⟨custody, ⟨shares, whole, merged.of_nil_cons, unsent⟩, sound.content_eq resting.idle,
    sound.carries.written, ?_⟩
  have counted : scene.ledger.collector.stats.recordsDecoded = scene.ledger.records.flatten.length := by
    rw [Ledger.records, length_flatten_map]
    exact sound.accounted.records.counted .recordsDecoded rfl
  rw [counted, ← conserved, sound.carries.written]

/-- Where nothing was lost, all has been written: `Balanced` without the exceptions. -/
theorem Balanced.written (balanced : scene.Balanced before) (nothing : scene.lost = .none) :
    scene.Written before := by
  obtain ⟨custody, ⟨shares, whole, merged, unsent⟩, content, count, counted⟩ := balanced
  rw [nothing] at custody unsent counted
  have merged : Interleaving scene.ledger.records scene.ledger.received := by
    rw [← whole, Share.map_whole_of_unsent unsent]
    exact merged
  refine ⟨?_, merged, content, count.trans merged.perm.length_eq, counted.symm⟩
  rw [Losses.none, List.append_nil] at custody
  exact custody.symm

end Scene

end FlowCollector
