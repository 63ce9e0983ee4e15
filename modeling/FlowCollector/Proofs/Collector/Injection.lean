import FlowCollector.Proofs.Collector.Backpressure
import FlowCollector.Proofs.Collector.Lifecycle
import Mathlib.Data.List.Infix

/-!
# The turn of a record that is put in directly

A record that is put into the outgoing queue directly stands behind those that wait, and everything that is put there
later stands behind it, whoever puts it. Records leave at the other end and nowhere else, so the number of those in
front of it says which reception gives it, and no stop and no other sender can change that.

A record for which there is no place may be made to wait for one, and the wait ends at some move or is given up. How it
ends is not decided here: an `enter` can come whenever there is a free place, which is oftener than it can really.
-/

set_option autoImplicit false

namespace FlowCollector

/-- What can happen to a collector while records may wait to be put in directly: any `Move`, or the end of a wait. -/
inductive Passage where
  | move (move : Move)
  /-- A record that has waited gets a free place. It changes nothing where there is none, by `Ledger.pass`. -/
  | enter (record : FlowRecord)

/-- True of a reception, whatever the answer: `Move.receives` of a move. -/
def Passage.receives : Passage → Bool
  | .move own => own.receives
  | .enter _ => false

namespace Ledger

/-- A record is put into the queue past the decoders, and written down as `injected`. -/
def put (ledger : Ledger) (record : FlowRecord) : Ledger :=
  { ledger with
    collector := { ledger.collector with workshop.outgoing := ledger.collector.workshop.outgoing.put record }
    injected := ledger.injected ++ [record] }

/-- True when a place is free, owed to a worker or not, and a record may be sent. It is weaker than
`Outgoing.hasRoom`, so that an `enter` can come whenever a waiting record might really get in. -/
def HasPlace (ledger : Ledger) : Prop :=
  ledger.collector.workshop.outgoing.isOpen = true ∧ 0 < ledger.collector.workshop.outgoing.free

instance (ledger : Ledger) : Decidable ledger.HasPlace := inferInstanceAs (Decidable (_ ∧ _))

/-- Writes down what happens. A record that enters does so only if the ledger `HasPlace` for it. -/
def pass (ledger : Ledger) : Passage → Ledger
  | .move move => ledger.move move
  | .enter record => if ledger.HasPlace then ledger.put record else ledger

/-- Writes down what happens, one `pass` after another. -/
def passes (ledger : Ledger) (passages : List Passage) : Ledger := passages.foldl pass ledger

end Ledger

/-! ## Places -/

namespace Workshop

/-- How many of the free places are owed to workers: those to which a worker could `send?` now. -/
def owed (workshop : Workshop) : Nat :=
  (List.range workshop.outgoing.senders.length).countP fun position => (workshop.perform? (.send position)).isSome

variable (workshop : Workshop)

/-- Places are owed in the order of asking: a worker can send if it is among the first `Outgoing.free` of the
senders. -/
theorem isSome_perform_send (position : Nat) :
    (workshop.perform? (.send position)).isSome
      = decide (position < workshop.outgoing.senders.length ∧ position < workshop.outgoing.free) := by
  simp only [perform?, send?, Outgoing.send?]
  cases found : workshop.outgoing.senders[position]? with
  | none =>
    have := List.getElem?_eq_none_iff.1 found
    simp [Nat.not_lt.2 this]
  | some sender =>
    obtain ⟨inside, -⟩ := List.getElem?_eq_some_iff.1 found
    by_cases given : position < workshop.outgoing.free <;> simp [inside, given]

theorem owed_eq : workshop.owed = min workshop.outgoing.senders.length workshop.outgoing.free := by
  have below (free count : Nat) :
      (List.range count).countP (fun position => decide (position < free)) = min count free := by
    induction count with
    | zero => rw [List.range_zero, List.countP_nil, Nat.zero_min]
    | succ count ih =>
      rw [List.range_succ, List.countP_append, ih, List.countP_singleton]
      split <;> rename_i given <;> simp only [decide_eq_true_iff] at given <;> omega
  rw [owed, ← below]
  refine List.countP_congr fun position mem => ?_
  rw [isSome_perform_send]
  simp [List.mem_range.1 mem]

/-- There is room for a record that has not waited (`Outgoing.hasRoom`) if a place is free that is not `owed`. -/
theorem hasRoom_iff : workshop.outgoing.hasRoom = true ↔ workshop.owed < workshop.outgoing.free := by
  rw [owed_eq, Outgoing.hasRoom, decide_eq_true_iff, Outgoing.free]
  omega

end Workshop

namespace Collector

variable {collector : Collector}

theorem receive_of_cons (receiving : collector.workshop.outgoing.receiving = true) {record : FlowRecord}
    {others : List FlowRecord} (waits : collector.workshop.outgoing.waiting = record :: others) :
    collector.receive = (.record record, { collector with
      workshop.outgoing := { collector.workshop.outgoing with waiting := others } }) := by
  simp [receive, receiving, Outgoing.pop?, waits]

theorem receive_of_nil (waits : collector.workshop.outgoing.waiting = []) :
    ∃ answer, (∀ record, answer ≠ .record record) ∧ collector.receive = (answer, collector) := by
  rcases collector.receive_cases with ⟨record, others, oldest, -⟩ | nothing
  · rw [waits] at oldest
    cases oldest
  · exact nothing

end Collector

/-! ## In front and behind -/

namespace Ledger

variable {ledger : Ledger}

/-- What a stop leaves waiting starts with what waited, since workers only add behind it. -/
theorem waiting_isPrefix_stop (ledger : Ledger) : ledger.waiting <+: (ledger.move .stop).waiting := by
  show _ <+: ledger.collector.stop.workshop.outgoing.waiting
  unfold Collector.stop
  split
  · exact List.prefix_rfl
  · exact List.prefix_rfl
  · exact ledger.collector.workshop.waiting_isPrefix_settle

/-- The consumer receives nothing in a `Move.stop`. -/
theorem received_stop (ledger : Ledger) : (ledger.move .stop).received = ledger.received := by
  show (ledger.run (ledger.collector.finalActs.map .act)).received = _
  unfold Collector.finalActs
  split
  · obtain ⟨decoded, settled⟩ := ledger.run_settling
    rw [settled]
  · rfl

/-- An event that is no reception leaves what waits where it is, and may put more behind it. -/
theorem waiting_isPrefix_step (ledger : Ledger) {event : Event} (other : event ≠ .receive) :
    (ledger.step event).received = ledger.received ∧ ledger.waiting <+: (ledger.step event).waiting := by
  constructor
  · cases event with
    | receive => exact absurd rfl other
    | start _ | arrive _ _ | inject _ | act _ =>
      simp only [step]
      split <;> rfl
  · have change := ledger.change_step event
    unfold waiting
    generalize (ledger.step event).collector = after at change ⊢
    cases change with
    | received => exact absurd rfl other
    | injected => exact List.prefix_append ..
    | acted performed => exact Workshop.waiting_isPrefix_perform performed
    | unchanged | started | taken | counted => exact List.prefix_rfl

/-- A consumer that is there receives the oldest record by `Event.receive`, if one waits. -/
theorem step_receive (receiving : ledger.collector.workshop.outgoing.receiving = true) :
    (ledger.step .receive).received = ledger.received ++ ledger.waiting.take 1
      ∧ (ledger.step .receive).waiting = ledger.waiting.drop 1 := by
  unfold waiting
  cases waits : ledger.collector.workshop.outgoing.waiting with
  | nil =>
    obtain ⟨answer, nothing, received⟩ := Collector.receive_of_nil waits
    simp only [step, received]
    cases answer with
    | record record => exact absurd rfl (nothing record)
    | empty | closed | noReceiver => exact ⟨(List.append_nil _).symm, waits⟩
  | cons record others =>
    simp only [step, Collector.receive_of_cons receiving waits]
    exact ⟨rfl, rfl⟩

/-- Whatever happens while the consumer stays, it receives the oldest record if it asks for one and nothing otherwise,
and what else waited still does, in front of all that is new. This is the step of `passes_cases`. -/
theorem pass_cases (receiving : ledger.collector.workshop.outgoing.receiving = true) {passage : Passage}
    (stays : passage ≠ .move .dropReceiver) :
    let count := if passage.receives then 1 else 0
    (ledger.pass passage).collector.workshop.outgoing.receiving = true
      ∧ (ledger.pass passage).received = ledger.received ++ ledger.waiting.take count
      ∧ ledger.waiting.drop count <+: (ledger.pass passage).waiting := by
  have unread {after : Ledger} (received : after.received = ledger.received)
      (waits : ledger.waiting <+: after.waiting) :
      after.received = ledger.received ++ ledger.waiting.take 0 ∧ ledger.waiting.drop 0 <+: after.waiting :=
    ⟨received.trans (List.append_nil _).symm, waits⟩
  cases passage with
  | enter record =>
    by_cases place : ledger.HasPlace
    · rw [pass, if_pos place]
      exact ⟨receiving, unread rfl (List.prefix_append ..)⟩
    · rw [pass, if_neg place]
      exact ⟨receiving, unread rfl List.prefix_rfl⟩
  | move own =>
    cases own with
    | stop => exact ⟨(receiving_stop ledger).trans receiving, unread ledger.received_stop ledger.waiting_isPrefix_stop⟩
    | dropReceiver => exact absurd rfl stays
    | event event =>
      refine ⟨(ledger.change_step event).isOpen.1.trans receiving, ?_⟩
      by_cases reads : event = .receive
      · subst reads
        obtain ⟨received, left⟩ := step_receive receiving
        exact ⟨received, left ▸ List.prefix_rfl⟩
      · obtain ⟨received, waits⟩ := ledger.waiting_isPrefix_step reads
        have none : (Passage.move (.event event)).receives = false := by
          cases event with
          | receive => exact absurd rfl reads
          | _ => rfl
        rw [none]
        exact unread received waits

/-- A row of things happens, and with each `Passage.receives` the consumer gets the next of those that waited, as long
as there are any. -/
theorem passes_cases (receiving : ledger.collector.workshop.outgoing.receiving = true) {passages : List Passage}
    (stays : .move .dropReceiver ∉ passages) :
    let count := passages.countP Passage.receives
    let after := ledger.passes passages
    after.collector.workshop.outgoing.receiving = true
      ∧ ledger.received ++ ledger.waiting.take count <+: after.received
      ∧ after.received.length ≤ ledger.received.length + count
      ∧ ledger.waiting.drop count <+: after.waiting := by
  induction passages generalizing ledger with
  | nil => exact ⟨receiving, by simp [passes], Nat.le_refl _, List.prefix_rfl⟩
  | cons passage others ih =>
    obtain ⟨first, rest⟩ := not_or.1 (mt List.mem_cons.2 stays)
    obtain ⟨there, received, waits⟩ := ledger.pass_cases receiving (Ne.symm first)
    obtain ⟨remains, front, most, left⟩ := ih there rest
    rw [List.countP_cons]
    generalize others.countP Passage.receives = later at front most left ⊢
    generalize own_is : (if passage.receives then 1 else 0) = own at received waits ⊢
    refine ⟨remains, ?_, ?_, ?_⟩
    · rw [Nat.add_comm, List.take_add, ← List.append_assoc, ← received]
      exact ((List.prefix_append_right_inj _).2 (waits.take later)).trans front
    · have single : (ledger.waiting.take own).length ≤ own := List.length_take_le ..
      rw [received, List.length_append] at most
      change (ledger.passes (passage :: others)).received.length ≤ _ at most
      omega
    · rw [Nat.add_comm, ← List.drop_drop]
      exact (waits.drop later).trans left

/-- A record that is `put` behind others waits until these are received, is what is received next, and stays
received. -/
theorem put_in_order (receiving : ledger.collector.workshop.outgoing.receiving = true) (record : FlowRecord)
    {passages : List Passage} (stays : .move .dropReceiver ∉ passages) :
    let before := ledger.waiting.length
    let count := passages.countP Passage.receives
    let after := (ledger.put record).passes passages
    (count ≤ before → after.received = ledger.received ++ ledger.waiting.take count
        ∧ ledger.waiting.drop count ++ [record] <+: after.waiting)
      ∧ (count = before → after.collector.receive.1 = .record record)
      ∧ (before < count → after.received[ledger.received.length + before]? = some record) := by
  intro before count after
  have waits : (ledger.put record).waiting = ledger.waiting ++ [record] := rfl
  have put : (ledger.put record).collector.workshop.outgoing.receiving = true := receiving
  obtain ⟨remains, front, most, left⟩ := passes_cases put stays
  rw [waits] at front left
  change ledger.received ++ _ <+: after.received at front
  change after.received.length ≤ ledger.received.length + count at most
  have within : count ≤ before → after.received = ledger.received ++ ledger.waiting.take count
      ∧ ledger.waiting.drop count ++ [record] <+: after.waiting := by
    intro fewer
    rw [List.take_append_of_le_length fewer] at front
    rw [List.drop_append_of_le_length fewer] at left
    refine ⟨(front.eq_of_length_le ?_).symm, left⟩
    rwa [List.length_append, List.length_take_of_le fewer]
  refine ⟨within, fun own => ?_, fun more => ?_⟩
  · obtain ⟨-, next⟩ := within (Nat.le_of_eq own)
    rw [List.drop_of_length_le (Nat.le_of_eq own.symm), List.nil_append] at next
    obtain ⟨others, oldest⟩ := next
    rw [Collector.receive_of_cons remains oldest.symm]
  · have all : (ledger.waiting ++ [record]).length ≤ count := by
      rw [List.length_append, List.length_singleton]
      exact more
    rw [List.take_of_length_le all] at front
    obtain ⟨others, same⟩ := front
    rw [← same]
    simp [before]

/-! ## Putting a record in -/

/-- What puts a record into the queue: an injection that is accepted, or the end of one that has waited. Either does
the same `Ledger.put`. -/
inductive PutsIn (ledger : Ledger) (record : FlowRecord) : Passage → Prop
  | injected (accepted : (ledger.collector.inject record).1 = .accepted) :
    PutsIn ledger record (.move (.event (.inject record)))
  | entered (place : ledger.HasPlace) : PutsIn ledger record (.enter record)

theorem PutsIn.pass_eq {record : FlowRecord} {own : Passage} (puts : ledger.PutsIn record own) :
    ledger.pass own = ledger.put record := by
  cases puts with
  | injected accepted =>
    rcases ledger.collector.inject_cases record with ⟨-, -, injected⟩ | ⟨answer, refused, injected⟩
    · simp only [pass, move, step, injected]
      rfl
    · rw [injected] at accepted
      exact absurd accepted refused
  | entered place => exact if_pos place

/-- What `Collector.inject` answers, and that it changes nothing unless it is accepted. -/
theorem answer_inject (collector : Collector) (record : FlowRecord) :
    ((collector.inject record).1 = .accepted
        ↔ collector.workshop.outgoing.isOpen = true ∧ collector.workshop.owed < collector.workshop.outgoing.free)
      ∧ ((collector.inject record).1 = .refused ↔ collector.workshop.outgoing.isOpen = false)
      ∧ ((collector.inject record).1 ≠ .accepted → (collector.inject record).2 = collector) := by
  have room := collector.workshop.hasRoom_iff
  unfold Collector.inject
  cases opened : collector.workshop.outgoing.isOpen with
  | false => simp
  | true =>
    by_cases owed : collector.workshop.owed < collector.workshop.outgoing.free
    · simp [room.2 owed, owed]
    · simp [mt room.1 owed, owed]

/-- Where every worker waits, the places that are taken are those of records: if there is one for another, no sender
was given any. -/
theorem length_of_accepted (resting : ledger.collector.workshop.Resting) {record : FlowRecord}
    (accepted : (ledger.collector.inject record).1 = .accepted) :
    ledger.collector.workshop.outgoing.length = ledger.waiting.length := by
  obtain ⟨opened, owed⟩ := (answer_inject ledger.collector record).1.1 accepted
  have room : ledger.collector.workshop.outgoing.waiting.length < ledger.collector.workshop.outgoing.capacity := by
    unfold Outgoing.free at owed
    omega
  rw [Outgoing.length, if_pos opened, resting.senders room, List.length_nil, Nat.add_zero]
  exact Nat.min_eq_right (Nat.le_of_lt room)

end Ledger

/-- Whatever has happened to a collector of a `Setup` that passes, and its consumer stayed. `Collector.inject` accepts
a record at once exactly if the queue is open and a place is free that is `owed` to no worker; it refuses it exactly
if the queue is not open, and unless it accepts it nothing changes. A record that is put in, at once or after waiting
(`PutsIn`), is behind the records that wait, and whatever happens then, as many receptions as these are give these,
the next gives the record, and it is never lost in between. -/
theorem injection_order {setup : Setup} {collector : Collector} (accepted : Collector.build setup = .ok collector)
    {earlier : List Passage} (stays : .move .dropReceiver ∉ earlier) (record : FlowRecord) :
    let ledger := (Ledger.start collector).passes earlier
    let now := ledger.collector
    let queue := now.workshop.outgoing
    ((now.inject record).1 = .accepted ↔ queue.isOpen = true ∧ now.workshop.owed < queue.free)
      ∧ ((now.inject record).1 = .refused ↔ queue.isOpen = false)
      ∧ ((now.inject record).1 ≠ .accepted → (now.inject record).2 = now)
      ∧ ((now.inject record).1 = .accepted → now.workshop.Resting → queue.length = ledger.waiting.length)
      ∧ ∀ own, ledger.PutsIn record own → ∀ later, .move .dropReceiver ∉ later →
          let count := later.countP Passage.receives
          let after := (ledger.pass own).passes later
          (count ≤ ledger.waiting.length → after.received = ledger.received ++ ledger.waiting.take count
              ∧ ledger.waiting.drop count ++ [record] <+: after.waiting)
            ∧ (count = ledger.waiting.length → after.collector.receive.1 = .record record)
            ∧ (ledger.waiting.length < count →
                after.received[ledger.received.length + ledger.waiting.length]? = some record) := by
  intro ledger now queue
  obtain ⟨-, built⟩ := Collector.build_eq_ok accepted
  have begun : (Ledger.start collector).collector.workshop.outgoing.receiving = true := by
    rw [built]
    rfl
  obtain ⟨receiving, -⟩ := Ledger.passes_cases begun stays
  obtain ⟨answered, refused, same⟩ := Ledger.answer_inject now record
  refine ⟨answered, refused, same, fun taken resting => Ledger.length_of_accepted resting taken, ?_⟩
  intro own puts later staysOn
  rw [puts.pass_eq]
  exact Ledger.put_in_order receiving record staysOn

/-- A queue of three places, and a worker that has sent the first of two records and not yet asked for a place for the
second. A record that is put in now comes between the two, and a stop does not change that. -/
theorem injection_order_between_two :
    let setup : Setup := ⟨[⟨.netflow, .v4 ⟨127, 0, 0, 1⟩ 0, 1, 4, 1⟩], 3, 1⟩
    let double : Datagram := ⟨.v4 ⟨192, 0, 2, 1⟩ 9995, 0, [0, 5, 0, 2] ++ List.replicate 116 0⟩
    let record : FlowRecord := .blank (.v4 ⟨192, 0, 2, 7⟩) 60
    let earlier : List Passage := [.move (.event (.start fun _ address => .ok address)),
      .move (.event (.arrive 0 double)), .move (.event (.act (.take 0))), .move (.event (.act (.work 0))),
      .move (.event (.act (.work 0))), .move (.event (.act (.send 0)))]
    let later : List Passage := [.move (.event .receive), .move (.event (.inject (.blank (.v4 ⟨192, 0, 2, 8⟩) 61))),
      .move .stop]
    let ledger := (Ledger.start (.create setup)).passes earlier
    let after := (ledger.pass (.move (.event (.inject record)))).passes later
    Collector.build setup = .ok (.create setup) ∧ .move .dropReceiver ∉ earlier ∧ .move .dropReceiver ∉ later
      ∧ ledger.waiting.length = 1 ∧ (ledger.collector.inject record).1 = .accepted
      ∧ after.received = ledger.waiting
      ∧ after.collector.receive.1 = .record record := by
  intro setup double record earlier later ledger after
  have built : Collector.build setup = .ok (.create setup) := rfl
  have stays : Passage.move .dropReceiver ∉ earlier := by simp [earlier]
  have staysOn : Passage.move .dropReceiver ∉ later := by simp [later]
  have one : ledger.waiting.length = 1 := by decide +kernel
  have none_received : ledger.received = [] := by decide +kernel
  have taken : (ledger.collector.inject record).1 = .accepted := by decide +kernel
  have now : (Ledger.start (.create setup)).passes earlier = ledger := rfl
  clear_value ledger
  obtain ⟨-, -, -, -, order⟩ := injection_order built stays record
  rw [now] at order
  obtain ⟨front, next, -⟩ := order _ (.injected taken) later staysOn
  have once : later.countP Passage.receives = ledger.waiting.length := one.symm
  rw [once] at front next
  obtain ⟨received, -⟩ := front (Nat.le_refl _)
  rw [none_received, List.take_length, List.nil_append] at received
  exact ⟨built, stays, staysOn, one, taken, received, next rfl⟩

end FlowCollector
