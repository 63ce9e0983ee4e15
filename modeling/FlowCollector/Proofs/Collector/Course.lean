import FlowCollector.Collector.Request
import FlowCollector.Proofs.Collector.Change
import FlowCollector.Proofs.Collector.Unhindered

/-!
# The whole course of a collector

A `Ledger.run` ends before the collector is stopped or the consumer goes. Here it goes on: a `Move` is any event,
or one of these two. What holds before both is said of runs, and a course without them is one. After a stop
nobody is left to do anything, so the stop itself is the last move that can decode, and what it decodes is
written down as if the workers had acted one by one.

Between two acts the workers wait for each other, which those who ask never see: `Collector.serve` lets them settle.
What a collector is after any requests, it is after some course.
-/

set_option autoImplicit false

namespace FlowCollector

/-! ## Settling, act by act -/

namespace Workshop

variable {workshop after : Workshop}

/-- The first of the `acts` that can be done, and the workshop after it. `Workshop.act?` is its second half. -/
def turn? (workshop : Workshop) : Option (Act × Workshop) :=
  workshop.acts.findSome? fun act => (workshop.perform? act).map (act, ·)

theorem perform_of_turn {act : Act} (h : workshop.turn? = some (act, after)) :
    workshop.perform? act = some after := by
  obtain ⟨_, tried, _, _, done, _⟩ := List.findSome?_eq_some_iff.1 h
  obtain ⟨result, performed, same⟩ := Option.map_eq_some_iff.1 done
  obtain ⟨rfl, rfl⟩ := Prod.mk.inj same
  exact performed

theorem map_snd_turn? (workshop : Workshop) : workshop.turn?.map Prod.snd = workshop.act? := by
  rw [turn?, List.map_findSome?, act?]
  refine congrArg (fun attempt => workshop.acts.findSome? attempt) (funext fun act => ?_)
  dsimp only [Function.comp]
  cases workshop.perform? act <;> rfl

/-- The acts by which the workers settle, one `turn?` after another until there is none. Each leaves less to do by
`perform_less`. -/
def settling (workshop : Workshop) : List Act :=
  match _next : workshop.turn? with
  | none => []
  | some (act, after) => act :: settling after
termination_by (workshop.backlog, workshop.pending)
decreasing_by exact perform_less (perform_of_turn _next)

theorem settling_of_turn_none (h : workshop.turn? = none) : workshop.settling = [] := by
  rw [settling]
  split
  · rfl
  case _ next =>
    rw [h] at next
    cases next

theorem settling_of_turn_some {act : Act} (h : workshop.turn? = some (act, after)) :
    workshop.settling = act :: after.settling := by
  rw [settling]
  split
  case _ still =>
    rw [h] at still
    cases still
  case _ next =>
    rw [h] at next
    cases next
    rfl

end Workshop

/-- The acts that are left to the workers when the collector is stopped. `Collector.stop` does them itself;
`Ledger.move` writes them down. -/
def Collector.finalActs (collector : Collector) : List Act :=
  if collector.phase = .started then collector.workshop.settling else []

/-! ## Moves -/

/-- What can happen to a collector: any `Event`, or that its owner stops it, or that its consumer goes. -/
inductive Move where
  | event (event : Event)
  | stop
  | dropReceiver

namespace Ledger

variable {ledger : Ledger}

/-- Writes down what one move does. A stop first writes down the `finalActs` as if they had come as events, and then
does what is left of `Collector.stop`. -/
def move (ledger : Ledger) : Move → Ledger
  | .event event => ledger.step event
  | .stop =>
    { ledger.run (ledger.collector.finalActs.map .act) with collector := ledger.collector.stop }
  | .dropReceiver => { ledger with collector := ledger.collector.dropReceiver }

/-- Writes down what happens, one `move` after another. -/
def course (ledger : Ledger) (moves : List Move) : Ledger := moves.foldl move ledger

theorem course_append (ledger : Ledger) (moves others : List Move) :
    ledger.course (moves ++ others) = (ledger.course moves).course others :=
  List.foldl_append

/-- Settling act by act comes to the same: the collector is as `Collector.settle` leaves it, and only `decoded` has
grown. -/
theorem run_settling (ledger : Ledger) : ∃ decoded,
    ledger.run (ledger.collector.workshop.settling.map .act)
      = { ledger with collector := ledger.collector.settle, decoded } := by
  unfold Collector.settle
  generalize now : ledger.collector.workshop = workshop
  induction workshop using Workshop.settling.induct generalizing ledger with
  | case1 workshop still =>
    subst now
    have none : ledger.collector.workshop.act? = none := by
      rw [← Workshop.map_snd_turn?, still, Option.map_none]
    rw [Workshop.settle_of_act_none none, Workshop.settling_of_turn_none still]
    exact ⟨ledger.decoded, rfl⟩
  | case2 workshop act after next ih =>
    subst now
    have performed := Workshop.perform_of_turn next
    have acted : ledger.collector.workshop.act? = some after := by
      rw [← Workshop.map_snd_turn?, next, Option.map_some]
    obtain ⟨decoded, settled⟩ := ih (ledger.step (.act act)) (by rw [step_act performed])
    refine ⟨decoded, ?_⟩
    rw [Workshop.settling_of_turn_some next, Workshop.settle_of_act_some acted]
    simp only [step_act performed] at settled
    simpa only [run, List.map_cons, List.foldl_cons, step_act performed] using settled

end Ledger

/-! ## Stopping a collector at rest -/

namespace Collector

variable {collector after : Collector}

theorem resting_settle (collector : Collector) : collector.settle.workshop.Resting :=
  Workshop.act_eq_none_iff.1 collector.workshop.act_settle

theorem settle_of_resting (h : collector.workshop.Resting) : collector.settle = collector := by
  rw [settle, Workshop.settle_of_act_none (Workshop.act_eq_none_iff.2 h)]

/-- The workers of a running collector settle before it stops, so `Collector.settle` in front of a stop is no
different. -/
theorem stop_settle (started : collector.phase = .started) : collector.settle.stop = collector.stop := by
  have again := settle_of_resting collector.resting_settle
  have same : collector.settle.workshop.settle = collector.workshop.settle :=
    congrArg Collector.workshop again
  unfold stop
  simp only [settle, started] at same ⊢
  rw [same]

/-- Of a collector at rest, `stop` changes only who is there, and what is said of that: a running one does
`Collector.giveUp`, and loses nothing by it that the workers could still have sent. -/
theorem stop_cases (resting : collector.phase = .started → collector.workshop.Resting) :
    (collector.phase = .stopped ∧ collector.stop = collector)
    ∨ (collector.phase = .created ∧ collector.stop = { collector with
        phase := .stopped
        workshop.outgoing := collector.workshop.outgoing.close })
    ∨ (collector.phase = .started ∧ collector.stop = collector.giveUp) := by
  unfold stop
  cases phase : collector.phase with
  | created => exact .inr (.inl ⟨rfl, rfl⟩)
  | started => exact .inr (.inr ⟨rfl, congrArg giveUp (settle_of_resting (resting phase))⟩)
  | stopped => exact .inl ⟨rfl, rfl⟩

end Collector

/-! ## What every move keeps -/

namespace Ledger

variable {ledger : Ledger}

theorem stop_run_finalActs (ledger : Ledger) :
    (ledger.run (ledger.collector.finalActs.map .act)).collector.stop = ledger.collector.stop := by
  unfold Collector.finalActs
  split
  case isTrue started =>
    obtain ⟨decoded, settled⟩ := ledger.run_settling
    rw [settled]
    exact Collector.stop_settle started
  case isFalse => rfl

theorem resting_run_finalActs (ledger : Ledger) :
    let last := ledger.run (ledger.collector.finalActs.map .act)
    last.collector.phase = .started → last.collector.workshop.Resting := by
  unfold Collector.finalActs
  split
  case isTrue =>
    obtain ⟨decoded, settled⟩ := ledger.run_settling
    rw [settled]
    exact fun _ => ledger.collector.resting_settle
  case isFalse idle => exact fun started => absurd started idle

/-- What is kept by every event, by a stop that finds the workers at rest, and when the consumer goes. `Kept.course`
makes these three an invariant of whole courses. -/
structure Kept (P : Ledger → Prop) : Prop where
  step : ∀ {ledger : Ledger}, P ledger → ∀ event, P (ledger.step event)
  stop : ∀ {ledger : Ledger}, P ledger →
    (ledger.collector.phase = .started → ledger.collector.workshop.Resting) →
    P { ledger with collector := ledger.collector.stop }
  dropReceiver : ∀ {ledger : Ledger}, P ledger →
    P { ledger with collector := ledger.collector.dropReceiver }

namespace Kept

variable {P : Ledger → Prop}

protected theorem run (kept : Kept P) (h : P ledger) (events : List Event) : P (ledger.run events) := by
  induction events generalizing ledger with
  | nil => exact h
  | cons event others ih => exact ih (kept.step h event)

theorem move (kept : Kept P) (h : P ledger) (move : Move) : P (ledger.move move) := by
  cases move with
  | event event => exact kept.step h event
  | stop =>
    -- What the workers do before a stop are events, so that the stop itself finds them at rest.
    have last := kept.stop (kept.run h (ledger.collector.finalActs.map .act))
      ledger.resting_run_finalActs
    rw [stop_run_finalActs] at last
    exact last
  | dropReceiver => exact kept.dropReceiver h

/-- What is `Kept` holds all along. A stop with work left to do is a run of `finalActs`, by `Kept.step`, and then a
stop at rest, by `Kept.stop`. -/
theorem course (kept : Kept P) (h : P ledger) (moves : List Move) : P (ledger.course moves) := by
  induction moves generalizing ledger with
  | nil => exact h
  | cons move others ih => exact ih (kept.move h move)

end Kept

/-! ### While the consumer stays -/

theorem receiving_run (ledger : Ledger) (events : List Event) :
    (ledger.run events).collector.workshop.outgoing.receiving
      = ledger.collector.workshop.outgoing.receiving := by
  induction events generalizing ledger with
  | nil => rfl
  | cons event others ih => exact (ih (ledger.step event)).trans (ledger.change_step event).isOpen.1

theorem receiving_stop (ledger : Ledger) :
    (ledger.move .stop).collector.workshop.outgoing.receiving
      = ledger.collector.workshop.outgoing.receiving := by
  rw [← ledger.receiving_run (ledger.collector.finalActs.map .act)]
  show ledger.collector.stop.workshop.outgoing.receiving = _
  rw [← stop_run_finalActs]
  rcases Collector.stop_cases ledger.resting_run_finalActs with
    ⟨-, stopped⟩ | ⟨-, stopped⟩ | ⟨-, stopped⟩ <;> rw [stopped] <;> rfl

/-- The consumer stays until `Move.dropReceiver`. -/
theorem receiving_course (receiving : ledger.collector.workshop.outgoing.receiving = true)
    {moves : List Move} (stays : .dropReceiver ∉ moves) :
    (ledger.course moves).collector.workshop.outgoing.receiving = true := by
  induction moves generalizing ledger with
  | nil => exact receiving
  | cons move others ih =>
    obtain ⟨first, rest⟩ := not_or.1 (mt List.mem_cons.2 stays)
    apply ih _ rest
    cases move with
    | event event => exact (ledger.change_step event).isOpen.1.trans receiving
    | stop => exact (receiving_stop ledger).trans receiving
    | dropReceiver => exact absurd rfl first

/-- Until the stop, and while the consumer stays, nothing but events happens, so what is proved of `Ledger.run` holds
of such a course. -/
theorem course_eq_run (ledger : Ledger) {moves : List Move} (running : .stop ∉ moves)
    (stays : .dropReceiver ∉ moves) : ∃ events, ledger.course moves = ledger.run events := by
  induction moves generalizing ledger with
  | nil => exact ⟨[], rfl⟩
  | cons move others ih =>
    obtain ⟨notStop, unstopped⟩ := not_or.1 (mt List.mem_cons.2 running)
    obtain ⟨notDrop, undropped⟩ := not_or.1 (mt List.mem_cons.2 stays)
    cases move with
    | event event =>
      obtain ⟨events, same⟩ := ih (ledger.step event) unstopped undropped
      exact ⟨event :: events, same⟩
    | stop => exact absurd rfl notStop
    | dropReceiver => exact absurd rfl notDrop

theorem course_events (ledger : Ledger) (events : List Event) :
    ledger.course (events.map .event) = ledger.run events := by
  rw [course, run, List.foldl_map]
  rfl

end Ledger

/-! ## Phases -/

/-- Who is there in which `Phase`: workers and inputs only between a start and a stop, and senders are let in until
the stop. -/
structure Collector.Staged (collector : Collector) : Prop where
  sending : collector.workshop.outgoing.sending = true ↔ collector.phase ≠ .stopped
  unmanned : collector.phase ≠ .started → collector.workshop.inputs = []
    ∧ collector.workshop.hands = [] ∧ collector.workshop.outgoing.senders = []

/-- Before the start, and after the stop, nobody is there to do anything, and `settle` finds nothing. -/
theorem Collector.Staged.settle_of_idle {collector : Collector} (staged : collector.Staged)
    (idle : collector.phase ≠ .started) : collector.settle = collector := by
  obtain ⟨inputs, hands, senders⟩ := staged.unmanned idle
  exact settle_of_resting fun _ => Workshop.perform_of_empty inputs hands senders

theorem Collector.Change.staged {collector after : Collector} {event : Event}
    (change : collector.Change event after) (staged : collector.Staged) : after.Staged := by
  have sending := change.isOpen.2
  obtain ⟨running, unmanned⟩ := staged
  cases change with
  | started created =>
    refine ⟨⟨nofun, ?_⟩, fun idle => absurd rfl idle⟩
    intro _
    apply running.2
    rw [created]
    nofun
  | taken started => exact ⟨running, fun idle => absurd started idle⟩
  | acted performed =>
    refine ⟨by rw [sending]; exact running, ?_⟩
    intro idle
    obtain ⟨inputs, hands, senders⟩ := unmanned idle
    rw [Workshop.perform_of_empty inputs hands senders] at performed
    cases performed
  | _ => exact ⟨running, unmanned⟩

namespace Ledger

variable {ledger : Ledger}

theorem staged_start {setup : Setup} {collector : Collector}
    (h : Collector.build setup = .ok collector) : (start collector).collector.Staged := by
  obtain ⟨-, rfl⟩ := Collector.build_eq_ok h
  exact ⟨⟨nofun, fun _ => rfl⟩, fun _ => ⟨rfl, rfl, rfl⟩⟩

theorem kept_staged : Kept fun ledger => ledger.collector.Staged where
  step := fun staged event => (change_step _ event).staged staged
  stop := by
    intro ledger staged resting
    rcases Collector.stop_cases resting with ⟨-, stopped⟩ | ⟨created, stopped⟩ | ⟨-, stopped⟩ <;>
      simp only [stopped]
    · exact staged
    · obtain ⟨inputs, hands, -⟩ := staged.unmanned (by simp [created])
      exact ⟨⟨nofun, fun running => absurd rfl running⟩, fun _ => ⟨inputs, hands, rfl⟩⟩
    · exact ⟨⟨nofun, fun running => absurd rfl running⟩, fun _ => ⟨rfl, rfl, rfl⟩⟩
  dropReceiver := by
    intro ledger staged
    refine ⟨staged.sending, ?_⟩
    intro idle
    obtain ⟨inputs, hands, -⟩ := staged.unmanned idle
    refine ⟨?_, hands, rfl⟩
    simp [Collector.dropReceiver, Workshop.abandonInputs, inputs]

theorem phase_stop (collector : Collector) : collector.stop.phase = .stopped := by
  unfold Collector.stop
  split
  case _ stopped => exact stopped
  case _ => rfl
  case _ => rfl

/-- A collector has been stopped if and only if a `Move.stop` is among the moves, or it was before. -/
theorem phase_course_eq_stopped_iff (ledger : Ledger) (moves : List Move) :
    (ledger.course moves).collector.phase = .stopped
      ↔ ledger.collector.phase = .stopped ∨ .stop ∈ moves := by
  induction moves generalizing ledger with
  | nil => simp [course]
  | cons move others ih =>
    have later := ih (ledger.move move)
    cases move with
    | event event =>
      have same : (ledger.step event).collector.phase = .stopped ↔ ledger.collector.phase = .stopped := by
        rcases (ledger.change_step event).phase with same | ⟨created, started, -⟩
        · rw [same]
        · simp [created, started]
      simpa [course, move, same] using later
    | stop =>
      have stopped : (ledger.move .stop).collector.phase = .stopped := phase_stop ledger.collector
      simpa [course, stopped] using later
    | dropReceiver => simpa [course, move, Collector.dropReceiver] using later

/-- After a stop nobody is left to put a record into the queue, and a consumer that has stayed is there:
`Collector.Ended`. -/
theorem ended_course (staged : ledger.collector.Staged)
    (receiving : ledger.collector.workshop.outgoing.receiving = true) {moves : List Move}
    (stopped : .stop ∈ moves) (stays : .dropReceiver ∉ moves) :
    (ledger.course moves).collector.Ended := by
  have phase := (ledger.phase_course_eq_stopped_iff moves).2 (.inr stopped)
  obtain ⟨sending, unmanned⟩ := kept_staged.course staged moves
  obtain ⟨inputs, hands, senders⟩ := unmanned (by simp [phase])
  refine ⟨inputs, hands, senders, ?_, receiving_course receiving stays⟩
  rw [← Bool.not_eq_true, sending, phase]
  exact fun running => running rfl

/-! ## Requests are moves -/

theorem exists_run_settle (ledger : Ledger) :
    ∃ events, (ledger.run events).collector = ledger.collector.settle := by
  obtain ⟨decoded, settled⟩ := ledger.run_settling
  exact ⟨_, congrArg Ledger.collector settled⟩

theorem run_append (ledger : Ledger) (events others : List Event) :
    ledger.run (events ++ others) = (ledger.run events).run others :=
  List.foldl_append

theorem exists_run_drain (ledger : Ledger) :
    ∃ events, (ledger.run events).collector = ledger.collector.drain.2.2 := by
  generalize now : ledger.collector = collector
  induction collector using Collector.drain.induct generalizing ledger with
  | case1 collector record after received _ _ _ _ ih =>
    subst now
    have taken : (ledger.step .receive).collector = after := by
      rw [collector_step_receive, received]
    obtain ⟨settling, settled⟩ := (ledger.step .receive).exists_run_settle
    rw [taken] at settled
    -- The induction is on what is drained after a reception, which lets the workers settle first.
    obtain ⟨rest, drained⟩ := ih ((ledger.step .receive).run settling) settled
    refine ⟨.receive :: (settling ++ rest), ?_⟩
    have drain : ledger.collector.drain.2.2 = after.settle.drain.2.2 := by
      rw [Collector.drain]
      split
      case _ again =>
        rw [received] at again
        cases again
        rfl
      case _ nothing again =>
        rw [received] at again
        cases again
        exact absurd rfl (nothing record)
    rw [drain, ← drained]
    exact congrArg Ledger.collector (run_append (ledger.step .receive) settling rest)
  | case2 collector ending after nothing received =>
    subst now
    refine ⟨[.receive], ?_⟩
    rw [Collector.drain]
    split
    case _ record _ again =>
      rw [received] at again
      cases again
      exact absurd rfl (nothing record)
    case _ again =>
      rw [received] at again
      cases again
      show (ledger.step .receive).collector = _
      rw [collector_step_receive, received]

/-- What is asked for happens in moves, of which none is a stop, or the consumer's going, unless a `Collector.Request`
asked for it. -/
def Serving (requests : List Collector.Request) (moves : List Move) : Prop :=
  (.stop ∈ moves → .stop ∈ requests) ∧ (.dropReceiver ∈ moves → .dropReceiver ∈ requests)

theorem serving_events (requests : List Collector.Request) (events : List Event) :
    Serving requests (events.map .event) := by
  simp [Serving]

theorem Serving.append {requests others : List Collector.Request} {moves more : List Move}
    (first : Serving requests moves) (second : Serving others more) :
    Serving (requests ++ others) (moves ++ more) := by
  simp only [Serving, List.mem_append]
  exact ⟨Or.imp first.1 second.1, Or.imp first.2 second.2⟩

theorem exists_course_answer (ledger : Ledger) (request : Collector.Request) :
    ∃ moves, Serving [request] moves
      ∧ (ledger.course moves).collector = (ledger.collector.answer request).2 := by
  have single (event : Event) (h : (ledger.step event).collector = (ledger.collector.answer request).2) :
      ∃ moves, Serving [request] moves
        ∧ (ledger.course moves).collector = (ledger.collector.answer request).2 :=
    ⟨[.event event], serving_events [request] [event], h⟩
  cases request with
  | start network =>
    apply single (.start network)
    simp only [step, Collector.answer]
    cases ledger.collector.start network <;> rfl
  | stop => exact ⟨[.stop], by simp [Serving], rfl⟩
  | arrive index datagram => exact single _ (ledger.collector_step_arrive index datagram)
  | inject record => exact single _ (ledger.collector_step_inject record)
  | receive => exact single _ ledger.collector_step_receive
  | drain =>
    obtain ⟨events, drained⟩ := ledger.exists_run_drain
    refine ⟨events.map .event, serving_events _ _, ?_⟩
    rw [course_events]
    exact drained
  | dropReceiver => exact ⟨[.dropReceiver], by simp [Serving], rfl⟩

/-- What a collector is after requests that `serveAll` serves one after another, it is after some course, so whatever
is `Kept` holds of it. -/
theorem exists_course_serveAll (ledger : Ledger) (requests : List Collector.Request) :
    ∃ moves, Serving requests moves
      ∧ (ledger.course moves).collector = (ledger.collector.serveAll requests).2 := by
  induction requests generalizing ledger with
  | nil => exact ⟨[], by simp [Serving], rfl⟩
  | cons request others ih =>
    obtain ⟨answering, asked, answered⟩ := ledger.exists_course_answer request
    obtain ⟨settling, settled⟩ := (ledger.course answering).exists_run_settle
    obtain ⟨rest, later, served⟩ := ih ((ledger.course answering).run settling)
    refine ⟨answering ++ (settling.map .event ++ rest), ?_, ?_⟩
    · exact asked.append ((serving_events [] settling).append later)
    · rw [course_append, course_append, course_events, served, settled, answered]
      rfl

end Ledger

end FlowCollector
