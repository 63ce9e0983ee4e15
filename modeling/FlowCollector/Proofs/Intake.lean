import FlowCollector.Intake
import FlowCollector.Proofs.Monitor
import Mathlib.Data.List.Induction

/-!
# The law of an intake queue

A `Journal` is an intake queue with its counts and with lists of what was taken, refused and received, in their
order. The queue itself keeps none of these lists. `Journal.Sound` says what they have to do with it, and
each way of touching the queue keeps it so, whatever happened before: a queue may be closed when it is partly
filled, and dropped when it is full.
-/

set_option autoImplicit false

namespace FlowCollector.Intake

variable {intake : Intake} {datagram : Datagram}

/-! ## What each touch does -/

theorem offer_of_hasRoom (room : intake.hasRoom = true) (input : Nat) (datagram : Datagram)
    (monitor : Monitor) :
    intake.offer input datagram monitor
      = (true, { intake with waiting := intake.waiting ++ [datagram] },
          monitor.add (.received input) 1) := by
  simp [offer, push, room]

theorem offer_of_not_hasRoom (full : intake.hasRoom ≠ true) (input : Nat) (datagram : Datagram)
    (monitor : Monitor) :
    intake.offer input datagram monitor
      = (false, intake, (monitor.add (.received input) 1).add (.dropped input) 1) := by
  simp [offer, full]

theorem fst_offer (intake : Intake) (input : Nat) (datagram : Datagram) (monitor : Monitor) :
    (intake.offer input datagram monitor).1 = intake.hasRoom := by
  by_cases room : intake.hasRoom = true
  · rw [offer_of_hasRoom room, room]
  · rw [offer_of_not_hasRoom room, Bool.eq_false_iff.2 room]

theorem hasRoom_iff :
    intake.hasRoom = true ↔ intake.reception = .opened ∧ intake.length < intake.capacity := by
  simp [hasRoom]

/-- The oldest datagram is received by `receive`, or nothing happens. -/
theorem receive_cases (intake : Intake) :
    (∃ datagram others, intake.reception ≠ .dropped ∧ intake.waiting = datagram :: others
      ∧ intake.receive = (.datagram datagram, { intake with waiting := others }))
    ∨ ∃ answer, (∀ datagram, answer ≠ .datagram datagram) ∧ intake.receive = (answer, intake) := by
  unfold receive
  by_cases gone : intake.reception = .dropped
  · exact .inr ⟨.noReceiver, nofun, if_pos gone⟩
  · rw [if_neg gone]
    cases waits : intake.waiting with
    | nil => exact .inr ⟨.none, nofun, by simp [pop?, waits]⟩
    | cons datagram others => exact .inl ⟨datagram, others, gone, rfl, by simp [pop?, waits]⟩

/-! ## Journals -/

/-- What happens to a queue: any of the four things that a listener, a worker or a stop does to an `Intake`. -/
inductive Step where
  | offer (datagram : Datagram)
  | receive
  | close
  | drop
  deriving DecidableEq

/-- The datagram that a step offers, if it does offer one. -/
def Step.offered? : Step → Option Datagram
  | offer datagram => some datagram
  | _ => none

/-- A queue with its counts, and what has gone in and come out of it. `Journal.step` writes the lists; the `Intake`
does not see them. -/
structure Journal where
  intake : Intake
  monitor : Monitor
  accepted : List Datagram
  refused : List Datagram
  received : List Datagram

namespace Journal

/-- A new queue, in a collector of so many inputs, of which nothing is written yet. -/
def start (inputs capacity : Nat) : Journal := ⟨.start capacity, .start inputs, [], [], []⟩

/-- Writes down what one step does to the queue of an input. -/
def step (input : Nat) (journal : Journal) : Step → Journal
  | .offer datagram =>
    match journal.intake.offer input datagram journal.monitor with
    | (true, intake, monitor) =>
      { journal with intake, monitor, accepted := journal.accepted ++ [datagram] }
    | (false, intake, monitor) =>
      { journal with intake, monitor, refused := journal.refused ++ [datagram] }
  | .receive =>
    match journal.intake.receive with
    | (.datagram datagram, intake) =>
      { journal with intake, received := journal.received ++ [datagram] }
    | (_, intake) => { journal with intake }
  | .close => { journal with intake := journal.intake.close }
  | .drop => { journal with intake := journal.intake.drop }

/-- Writes down what happens, one `step` after another. -/
def run (input : Nat) (journal : Journal) (steps : List Step) : Journal :=
  steps.foldl (step input) journal

variable {capacity inputs input : Nat} {journal : Journal} {step : Step}

theorem run_append_singleton (journal : Journal) (steps : List Step) (step : Step) :
    journal.run input (steps ++ [step]) = (journal.run input steps).step input step := by
  rw [run, run, List.foldl_append, List.foldl_cons, List.foldl_nil]

/-! ### The queue -/

/-- What the lists of a journal have to do with the queue. Every `Step` keeps it, whatever the queue has come to. -/
structure Sound (capacity : Nat) (journal : Journal) : Prop where
  capacity_eq : journal.intake.capacity = capacity
  fits : journal.intake.length ≤ capacity
  /-- What was accepted was received, or lost when the queue was dropped, or it waits. -/
  conserved : ∃ lost, journal.accepted = journal.received ++ lost ++ journal.intake.waiting
    ∧ (journal.intake.reception ≠ .dropped → lost = [])
    ∧ (journal.intake.reception = .dropped → journal.intake.waiting = [])

namespace Sound

theorem start (inputs capacity : Nat) : Sound capacity (Journal.start inputs capacity) :=
  ⟨rfl, Nat.zero_le _, [], rfl, fun _ => rfl, nofun⟩

theorem offer (sound : Sound capacity journal) (datagram : Datagram) :
    Sound capacity (journal.step input (.offer datagram)) := by
  by_cases room : journal.intake.hasRoom = true
  · obtain ⟨opened, less⟩ := hasRoom_iff.1 room
    obtain ⟨lost, conserved, kept, -⟩ := sound.conserved
    have size := sound.capacity_eq
    simp only [Journal.step, offer_of_hasRoom room]
    refine ⟨size, ?_, lost, ?_, kept, ?_⟩
    · simp only [length, List.length_append, List.length_singleton] at less ⊢
      omega
    · rw [conserved, List.append_assoc]
    · intro dropped
      rw [opened] at dropped
      cases dropped
  · simp only [Journal.step, offer_of_not_hasRoom room]
    exact ⟨sound.capacity_eq, sound.fits, sound.conserved⟩

theorem receive (sound : Sound capacity journal) :
    Sound capacity (journal.step input .receive) := by
  obtain ⟨datagram, others, there, waits, received⟩ | ⟨answer, nothing, received⟩ :=
    journal.intake.receive_cases
  · obtain ⟨lost, conserved, kept, -⟩ := sound.conserved
    have fits := sound.fits
    simp only [Journal.step, received]
    refine ⟨sound.capacity_eq, ?_, lost, ?_, kept, ?_⟩
    · simp only [length, waits, List.length_cons] at fits ⊢
      omega
    · -- Nothing was lost, so the oldest that waits is the next of those that were accepted.
      rw [conserved, waits, kept there]
      simp
    · intro dropped
      exact absurd dropped there
  · cases answer with
    | datagram datagram => exact absurd rfl (nothing datagram)
    | none => simpa only [Journal.step, received] using sound
    | noReceiver => simpa only [Journal.step, received] using sound

theorem close (sound : Sound capacity journal) : Sound capacity (journal.step input .close) := by
  obtain ⟨lost, conserved, kept, lostAll⟩ := sound.conserved
  simp only [Journal.step, Intake.close]
  split
  case _ opened =>
    have keeps : lost = [] := kept (by simp [opened])
    exact ⟨sound.capacity_eq, sound.fits, lost, conserved, fun _ => keeps, nofun⟩
  case _ => exact sound

theorem drop (sound : Sound capacity journal) : Sound capacity (journal.step input .drop) := by
  obtain ⟨lost, conserved, -⟩ := sound.conserved
  refine ⟨sound.capacity_eq, Nat.zero_le _, lost ++ journal.intake.waiting, ?_, ?_, fun _ => rfl⟩
  · simp [Journal.step, Intake.drop, conserved]
  · intro kept
    exact absurd rfl kept

protected theorem step (sound : Sound capacity journal) (step : Step) :
    Sound capacity (journal.step input step) := by
  cases step with
  | offer datagram => exact sound.offer datagram
  | receive => exact sound.receive
  | close => exact sound.close
  | drop => exact sound.drop

protected theorem run (sound : Sound capacity journal) (steps : List Step) :
    Sound capacity (journal.run input steps) := by
  induction steps generalizing journal with
  | nil => exact sound
  | cons step others ih => exact ih (sound.step step)

end Sound

theorem reception_step (journal : Journal) (input : Nat) (step : Step) :
    (journal.step input step).intake.reception
      = match step with
        | .close => journal.intake.close.reception
        | .drop => .dropped
        | _ => journal.intake.reception := by
  cases step with
  | offer datagram =>
    by_cases room : journal.intake.hasRoom = true
    · simp only [Journal.step, offer_of_hasRoom room]
    · simp only [Journal.step, offer_of_not_hasRoom room]
  | receive =>
    obtain ⟨datagram, others, -, -, received⟩ | ⟨answer, -, received⟩ := journal.intake.receive_cases
    · simp only [Journal.step, received]
    · cases answer <;> simp only [Journal.step, received]
  | close => rfl
  | drop => rfl

/-- What has become of the receiving end can be told from the steps alone, and a drop counts for more than a close
whichever came first. -/
theorem reception_run (inputs capacity input : Nat) (steps : List Step) :
    ((start inputs capacity).run input steps).intake.reception
      = if .drop ∈ steps then .dropped else if .close ∈ steps then .closed else .opened := by
  induction steps using List.reverseRecOn with
  | nil => rfl
  | append_singleton steps step ih =>
    rw [run_append_singleton, reception_step]
    cases step with
    | offer datagram => simpa using ih
    | receive => simpa using ih
    | close =>
      by_cases dropped : Step.drop ∈ steps
      · rw [if_pos dropped] at ih
        simp [Intake.close, ih, dropped]
      · by_cases closed : Step.close ∈ steps
        · rw [if_neg dropped, if_pos closed] at ih
          simp [Intake.close, ih, dropped]
        · rw [if_neg dropped, if_neg closed] at ih
          simp [Intake.close, ih, dropped]
    | drop => simp

/-! ### The counts -/

/-- What is counted of the queue of an input, and of nothing else: the counts of other inputs stay at zero. -/
structure Counted (input : Nat) (offered : List Datagram) (journal : Journal) : Prop where
  known : input < journal.monitor.stats.inputs.length
  counts : ∀ head, journal.monitor.stats.count head
    = (if head = .received input then offered.length else 0)
      + if head = .dropped input then journal.refused.length else 0
  complete : journal.accepted.length + journal.refused.length = offered.length
  sublist : journal.accepted.Sublist offered

namespace Counted

variable {offered : List Datagram}

theorem start (known : input < inputs) (capacity : Nat) :
    Counted input [] (Journal.start inputs capacity) := by
  refine ⟨?_, ?_, rfl, .slnil⟩
  · rw [Journal.start, Monitor.start, Stats.start, List.length_replicate]
    exact known
  · intro head
    rw [Journal.start, Monitor.start, Stats.count_start]
    simp

theorem offer (counted : Counted input offered journal) (datagram : Datagram) :
    Counted input (offered ++ [datagram]) (journal.step input (.offer datagram)) := by
  obtain ⟨known, counts, complete, sublist⟩ := counted
  have there : journal.monitor.stats.has (.received input) = true := decide_eq_true known
  by_cases room : journal.intake.hasRoom = true
  · simp only [Journal.step, offer_of_hasRoom room]
    refine ⟨?_, ?_, ?_, sublist.append (.refl _)⟩
    · rwa [Monitor.length_inputs_add]
    · intro head
      rw [Monitor.count_add there, counts]
      by_cases mine : head = .received input
      · subst mine
        simp [Counter.head]
      · simp [Counter.head, mine, Ne.symm mine]
    · rw [List.length_append, List.length_append, ← complete]
      simp only [List.length_singleton]
      omega
  · have still : (journal.monitor.add (.received input) 1).stats.has (.dropped input) = true := by
      rw [Stats.has, Monitor.length_inputs_add]
      exact decide_eq_true known
    simp only [Journal.step, offer_of_not_hasRoom room]
    refine ⟨?_, ?_, ?_, sublist.trans (List.sublist_append_left _ _)⟩
    · rwa [Monitor.length_inputs_add, Monitor.length_inputs_add]
    · intro head
      rw [Monitor.count_add still, Monitor.count_add there, counts]
      by_cases received : head = .received input
      · subst received
        simp [Counter.head]
      · by_cases dropped : head = .dropped input
        · subst dropped
          simp [Counter.head]
        · simp [Counter.head, received, dropped, Ne.symm received, Ne.symm dropped]
    · rw [List.length_append, List.length_append, ← complete]
      simp only [List.length_singleton]
      omega

protected theorem step (counted : Counted input offered journal) (step : Step) :
    Counted input (offered ++ step.offered?.toList) (journal.step input step) := by
  -- Only an offer is counted, so for the other three it is enough that they touch no list but what was received.
  have same : (journal.step input step).monitor = journal.monitor →
      (journal.step input step).refused = journal.refused →
      (journal.step input step).accepted = journal.accepted →
      Counted input offered (journal.step input step) := by
    intro monitor refused accepted
    refine ⟨?_, ?_, ?_, ?_⟩
    · rw [monitor]
      exact counted.known
    · rw [monitor, refused]
      exact counted.counts
    · rw [accepted, refused]
      exact counted.complete
    · rw [accepted]
      exact counted.sublist
  cases step with
  | offer datagram => exact counted.offer datagram
  | receive =>
    simp only [Step.offered?, Option.toList_none, List.append_nil]
    obtain ⟨datagram, others, -, -, received⟩ | ⟨answer, -, received⟩ :=
      journal.intake.receive_cases
    · refine same ?_ ?_ ?_ <;> simp only [Journal.step, received]
    · cases answer <;> refine same ?_ ?_ ?_ <;> simp only [Journal.step, received]
  | close =>
    simp only [Step.offered?, Option.toList_none, List.append_nil]
    exact same rfl rfl rfl
  | drop =>
    simp only [Step.offered?, Option.toList_none, List.append_nil]
    exact same rfl rfl rfl

protected theorem run (known : input < inputs) (capacity : Nat) (steps : List Step) :
    Counted input (steps.filterMap Step.offered?)
      ((Journal.start inputs capacity).run input steps) := by
  induction steps using List.reverseRecOn with
  | nil => exact start known capacity
  | append_singleton steps step ih =>
    have offered : (steps ++ [step]).filterMap Step.offered?
        = steps.filterMap Step.offered? ++ step.offered?.toList := by
      rw [List.filterMap_append]
      cases step <;> rfl
    rw [run_append_singleton, offered]
    exact ih.step step

end Counted

end Journal

/-- Whatever steps are taken with the queue of an input: an offer is accepted if and only if the receiving end was
neither closed nor dropped and fewer datagrams wait than the queue has places. Every offer is counted as received and
every refusal as dropped, at this input alone (`Counted`). What is received is the beginning of what was accepted, and
the rest of it waits, unless the queue was dropped. -/
theorem intake_law {inputs input : Nat} (known : input < inputs) (capacity : Nat) (steps : List Step) :
    let journal := (Journal.start inputs capacity).run input steps
    let offered := steps.filterMap Step.offered?
    let waiting := journal.accepted.length - journal.received.length
    (∀ datagram, (journal.intake.offer input datagram journal.monitor).1 = true
        ↔ .close ∉ steps ∧ .drop ∉ steps ∧ waiting < capacity)
      ∧ journal.monitor.stats.received input = offered.length
      ∧ journal.monitor.stats.dropped input = journal.refused.length
      ∧ journal.accepted.length + journal.refused.length = offered.length
      ∧ journal.accepted.Sublist offered
      ∧ journal.received <+: journal.accepted
      ∧ journal.intake.length = (if .drop ∈ steps then 0 else waiting)
      ∧ journal.intake.length ≤ capacity
      ∧ ∀ other, other ≠ input →
          journal.monitor.stats.received other = 0 ∧ journal.monitor.stats.dropped other = 0 := by
  intro journal offered waiting
  have sound : Journal.Sound capacity journal := (Journal.Sound.start inputs capacity).run steps
  have counted : Journal.Counted input offered journal := .run known capacity steps
  have reception := Journal.reception_run inputs capacity input steps
  change journal.intake.reception = _ at reception
  obtain ⟨lost, conserved, kept, lostAll⟩ := sound.conserved
  have left : journal.intake.length = if .drop ∈ steps then 0 else waiting := by
    split
    case isTrue dropped =>
      rw [if_pos dropped] at reception
      rw [length, lostAll reception, List.length_nil]
    case isFalse there =>
      have nothing : lost = [] := by
        refine kept ?_
        rw [reception, if_neg there]
        split <;> nofun
      have lengths := congrArg List.length conserved
      simp only [nothing, List.append_nil, List.length_append] at lengths
      show journal.intake.waiting.length = journal.accepted.length - journal.received.length
      omega
  refine ⟨?_, ?_, ?_, counted.complete, counted.sublist, ?_, left, sound.fits, ?_⟩
  · intro datagram
    rw [fst_offer, hasRoom_iff, sound.capacity_eq, left, reception]
    by_cases dropped : Step.drop ∈ steps <;> by_cases closed : Step.close ∈ steps <;>
      simp [dropped, closed]
  · simpa [Stats.count] using counted.counts (.received input)
  · simpa [Stats.count] using counted.counts (.dropped input)
  · rw [conserved, List.append_assoc]
    exact List.prefix_append _ _
  · intro other apart
    refine ⟨?_, ?_⟩
    · simpa [Stats.count, apart] using counted.counts (.received other)
    · simpa [Stats.count, apart] using counted.counts (.dropped other)

/-- A queue of two places that is closed while it is full: two of four offers are refused, one of them because
it came too late, and both datagrams that were accepted are received. -/
theorem intake_law_closed_when_full :
    let datagram (byte : UInt8) : Datagram := ⟨.v4 ⟨192, 0, 2, 1⟩ 9995, 0, [byte]⟩
    let steps : List Step := [.offer (datagram 1), .offer (datagram 2), .offer (datagram 3), .close,
      .receive, .offer (datagram 4), .receive]
    let journal := (Journal.start 2 2).run 1 steps
    1 < 2 ∧ journal.received = [datagram 1, datagram 2]
      ∧ journal.monitor.stats.received 1 = 4 ∧ journal.monitor.stats.dropped 1 = 2
      ∧ journal.intake.length = 0
      ∧ (journal.intake.offer 1 (datagram 5) journal.monitor).1 = false := by
  intro datagram steps journal
  have known : 1 < 2 := by decide
  have begun : (Journal.start 2 2).run 1 steps = journal := rfl
  have both : journal.received = [datagram 1, datagram 2] := by decide +kernel
  have refused : journal.refused.length = 2 := by decide +kernel
  have taken : journal.accepted.length = 2 := by decide +kernel
  clear_value journal
  have law := intake_law known 2 steps
  rw [begun] at law
  obtain ⟨accepts, received, dropped, -, -, -, left, -⟩ := law
  refine ⟨known, both, received, dropped.trans refused, ?_, ?_⟩
  · rw [left, taken, both]
    rfl
  · rw [Bool.eq_false_iff, Ne, accepts]
    simp [steps]

end FlowCollector.Intake
