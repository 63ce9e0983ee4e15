import FlowCollector.Sum
import FlowCollector.Workshop

/-!
# Letting the workers act

`Workshop.settle` lets the workers act until each of them waits. It comes to an end because every act leaves
less to do: taking a datagram and decoding it shorten the backlog, and every other act leaves the backlog
alone and brings a record nearer to the consumer, or a worker nearer to being idle.

The order of the acts is one of the many that are possible. What holds in every order is said of
`Workshop.perform?`.
-/

set_option autoImplicit false

namespace FlowCollector

/-! ## What is still to be done -/

theorem Intake.pop_eq_some {intake after : Intake} {datagram : Datagram}
    (h : intake.pop? = some (datagram, after)) :
    intake.waiting = datagram :: after.waiting
      ∧ after = { intake with waiting := after.waiting } := by
  unfold pop? at h
  split at h
  · cases h
  case _ waits =>
    obtain ⟨rfl, rfl⟩ := Prod.mk.inj (Option.some.inj h)
    exact ⟨waits, rfl⟩

/-- How many datagrams a worker has yet to decode: one or none. -/
def Hand.undecoded (hand : Hand) : Nat :=
  match hand.load with
  | .datagram _ _ => 1
  | .records _ => 0

/-- How many acts and receptions the records in a worker's hands need. Each record is asked a place for, put and
received, and then the worker becomes idle. -/
def Hand.effort (hand : Hand) : Nat :=
  match hand.load with
  | .datagram _ _ => 0
  | .records records => 3 * records.length + 1

/-- How many acts and receptions the records of a sender need, which has asked already for the first of them. -/
def Sender.effort (sender : Sender) : Nat := 3 * sender.records.length

namespace Workshop

/-- What is still to be done for the datagrams: each that waits has to be taken, and decoded then. Decoding may add to
`pending` without bound, so the two are compared in this order. -/
def backlog (workshop : Workshop) : Nat :=
  2 * sumOf (·.intake.length) workshop.inputs + sumOf Hand.undecoded workshop.hands

/-- What is still to be done for the records: each that waits has to be received, and each that is held has to be sent
before that. -/
def pending (workshop : Workshop) : Nat :=
  workshop.outgoing.waiting.length + sumOf Sender.effort workshop.outgoing.senders
    + sumOf Hand.effort workshop.hands

variable {workshop after : Workshop} {index position : Nat}

theorem backlog_abandonInputs_le (workshop : Workshop) :
    workshop.abandonInputs.backlog ≤ workshop.backlog := by
  have fewer := sumOf_mapIdx_le (fun input : Input => input.intake.length)
    (fun index input =>
      if workshop.workersOf index = 0 then { input with intake := input.intake.drop } else input)
    workshop.inputs ?_
  · simp only [backlog, abandonInputs]
    omega
  · intro index input
    split
    · exact Nat.zero_le _
    · exact Nat.le_refl _

theorem backlog_take_lt (h : workshop.take? index = some after) :
    after.backlog < workshop.backlog := by
  obtain ⟨input, datagram, intake, found, -, popped, rfl⟩ := take_eq_some h
  have waited := congrArg List.length (Intake.pop_eq_some popped).1
  have taken := sumOf_set (fun input : Input => input.intake.length)
    { input with intake, idle := input.idle - 1 } found
  simp only [Intake.length, List.length_cons] at waited taken
  simp only [backlog, Intake.length, sumOf_append, sumOf_singleton, Hand.undecoded]
  omega

theorem work_less (h : workshop.work? position = some after) :
    after.backlog < workshop.backlog
      ∨ after.backlog ≤ workshop.backlog ∧ after.pending < workshop.pending := by
  obtain ⟨index, protocol, datagram, found, rfl⟩ | ⟨index, found, rfl⟩
    | ⟨index, next, rest, found, rfl⟩ := work_eq_some h
  · have decoded := sumOf_set Hand.undecoded
      ⟨index, .records (datagram.decode protocol workshop.store).1.records⟩ found
    simp only [Hand.undecoded] at decoded
    refine .inl ?_
    simp only [backlog, decode]
    omega
  · have freed := sumOf_eraseIdx Hand.undecoded found
    have spared := sumOf_eraseIdx Hand.effort found
    have same := sumOf_modify (fun input : Input => input.intake.length)
      (fun input => { input with idle := input.idle + 1 }) workshop.inputs index fun _ => rfl
    simp only [Hand.undecoded, Hand.effort] at freed spared
    refine .inr ?_
    simp only [backlog, pending, release, letGo]
    omega
  · have freed := sumOf_eraseIdx Hand.undecoded found
    have spared := sumOf_eraseIdx Hand.effort found
    simp only [Hand.undecoded, Hand.effort, List.length_cons] at freed spared
    refine .inr ?_
    unfold ask
    split
    · simp only [backlog, pending, letGo, Outgoing.ask, sumOf_append, sumOf_singleton, Sender.effort,
        Sender.records, List.length_cons]
      omega
    · have fewer := backlog_abandonInputs_le (workshop.letGo position)
      simp only [backlog, pending, abandonInputs, letGo] at fewer ⊢
      omega

theorem send_less (h : workshop.send? position = some after) :
    after.backlog = workshop.backlog ∧ after.pending < workshop.pending := by
  obtain ⟨sender, found, -, rfl⟩ := send_eq_some h
  have sent := sumOf_eraseIdx Sender.effort found
  simp only [Sender.effort, Sender.records, List.length_cons] at sent
  simp only [backlog, pending, Outgoing.put, sumOf_append, sumOf_singleton, Hand.undecoded,
    Hand.effort, List.length_append, List.length_singleton]
  omega

/-- Every act that `perform?` can do leaves less to do. -/
theorem perform_less {act : Act} (h : workshop.perform? act = some after) :
    Prod.Lex (· < ·) (· < ·) (after.backlog, after.pending) (workshop.backlog, workshop.pending) := by
  rw [Prod.lex_def]
  dsimp only
  cases act with
  | take index => exact .inl (backlog_take_lt h)
  | work position =>
    have := work_less h
    omega
  | send position =>
    have := send_less h
    omega

/-! ## Settling -/

/-- The acts that are tried, in this order: first a worker goes on with what it has in its hands, then the
sender that has waited longest, then the idle workers of one input after another. -/
def acts (workshop : Workshop) : List Act :=
  .work 0 :: .send 0 :: (List.range workshop.inputs.length).map .take

/-- The first of the `acts` that can be done. -/
def act? (workshop : Workshop) : Option Workshop :=
  workshop.acts.findSome? workshop.perform?

theorem act_less (h : workshop.act? = some after) :
    Prod.Lex (· < ·) (· < ·) (after.backlog, after.pending) (workshop.backlog, workshop.pending) := by
  obtain ⟨_, act, _, _, done, _⟩ := List.findSome?_eq_some_iff.1 h
  exact perform_less done

/-- Lets the workers act by `act?` until each of them waits. -/
def settle (workshop : Workshop) : Workshop :=
  match _acted : workshop.act? with
  | none => workshop
  | some after => settle after
termination_by (workshop.backlog, workshop.pending)
decreasing_by exact act_less _acted

/-- Settling leaves no more to do than there was, and less if anything was done. -/
theorem settle_le (workshop : Workshop) :
    workshop.settle = workshop ∨ Prod.Lex (· < ·) (· < ·)
      (workshop.settle.backlog, workshop.settle.pending)
      (workshop.backlog, workshop.pending) := by
  fun_induction settle workshop with
  | case1 => exact .inl rfl
  | case2 workshop after h ih =>
    refine .inr ?_
    have less := act_less h
    rcases ih with same | ih
    · rw [same]
      exact less
    · have ih := Prod.lex_def.1 ih
      have less := Prod.lex_def.1 less
      refine Prod.lex_def.2 ?_
      dsimp only at *
      omega

end Workshop

end FlowCollector
