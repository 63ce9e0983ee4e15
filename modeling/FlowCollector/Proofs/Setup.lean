import FlowCollector.Collector
import FlowCollector.Proofs.Check
import FlowCollector.Setup.Draft

/-!
# What is wrong with a setup

What can be wrong with a setup is said here without a check: for each violation when there is one, and where it stands
in the order. The check finds the first. It makes its way through the inputs twice, once for their sizes and once for
their addresses, so a size of the last input is told before an address that the second input shares with the first.

A setup passes if there is no violation, and then it fits: that is all that is known of it where a collector is made.
-/

set_option autoImplicit false

namespace FlowCollector

/-! ## Violations, and their order -/

namespace Setup

/-- A size from one to a bound, as `Setup.check` asks of all sizes. -/
def Within (most : Nat) (size : UInt64) : Prop := 1 ≤ size.toNat ∧ size.toNat ≤ most

instance (most : Nat) (size : UInt64) : Decidable (Within most size) := inferInstanceAs (Decidable (_ ∧ _))

theorem Within.ne_zero {most : Nat} {size : UInt64} (within : Within most size) : size ≠ 0 := by
  rintro rfl
  exact absurd within.1 (by decide)

theorem inRange_eq_false_iff {size most : UInt64} : inRange size most = false ↔ ¬ Within most.toNat size := by
  rw [inRange, Bool.and_eq_false_iff, decide_eq_false_iff_not, decide_eq_false_iff_not, UInt64.le_iff_toNat_le,
    UInt64.le_iff_toNat_le, ← Decidable.not_and_iff_not_or_not]
  rfl

end Setup

namespace InputSetup

/-- When there is something wrong with a size of an input: it is not `Setup.Within` its bound. -/
def Violates (input : InputSetup) : Violation → Prop
  | .workers => ¬ Setup.Within 1024 input.workers
  | .decodeWorkers => ¬ Setup.Within 1024 input.decodeWorkers
  | .queueSize => ¬ Setup.Within 10000000 input.queueSize

/-- The order of the sizes of one input, in which `InputSetup.check` looks at them. -/
def Violation.place : Violation → Nat
  | workers => 0
  | decodeWorkers => 1
  | queueSize => 2

theorem findsFirst_check (input : InputSetup) :
    FindsFirst (fun error other => error.place < other.place) input.Violates input.check := by
  refine FindsFirst.congr (.seq (.require _ _) (.seq (.require _ _) (.require _ _) ?_) ?_) fun error => ?_
  · rintro _ _ ⟨rfl, -⟩ ⟨rfl, -⟩
    decide
  · rintro _ _ ⟨rfl, -⟩ (⟨rfl, -⟩ | ⟨rfl, -⟩) <;> decide
  · simp only [Setup.inRange_eq_false_iff]
    cases error <;> simp [Violates, Setup.maxWorkers, Setup.maxQueueSize]

end InputSetup

namespace Setup

/-- The input of this number listens at this address, and so does one before it. Port 0 is no such address, since the
system chooses for it. -/
def Repeats (inputs : List InputSetup) (index : Nat) (address : SocketAddress) : Prop :=
  address.port ≠ 0 ∧ (∃ input, inputs[index]? = some input ∧ input.listen = address)
    ∧ ∃ earlier < index, ∃ other, inputs[earlier]? = some other ∧ other.listen = address

/-- When there is something wrong with a setup. Its protocols and addresses have been read, so they cannot be, and no
violation is about them. -/
def Violates (setup : Setup) : Violation → Prop
  | .noInputs => setup.inputs = []
  | .outgoingQueueSize => ¬ Within 10000000 setup.outgoingQueueSize
  | .drainTimeout => ¬ Within 3600 setup.drainTimeoutSecs
  | .inputSize index violation => ∃ input, setup.inputs[index]? = some input ∧ input.Violates violation
  | .duplicateListen index address => Repeats setup.inputs index address
  | .protocol _ | .inputProtocol _ _ | .inputListen _ _ => False

namespace Violation

/-- Where a violation stands: the part of the setup, then the number of the input, then its sizes in their order. -/
def place : Violation → Nat × Nat × Nat
  | noInputs => (0, 0, 0)
  | outgoingQueueSize => (1, 0, 0)
  | drainTimeout => (2, 0, 0)
  | inputSize index violation => (3, index, violation.place)
  | duplicateListen index _ => (4, index, 0)
  | protocol _ | inputProtocol _ _ | inputListen _ _ => (5, 0, 0)

/-- The violation is told before the other: its `place` comes first. -/
def Earlier (violation other : Violation) : Prop :=
  Prod.Lex (· < ·) (Prod.Lex (· < ·) (· < ·)) violation.place other.place

theorem earlier_iff {violation other : Violation} : violation.Earlier other ↔
    violation.place.1 < other.place.1 ∨ violation.place.1 = other.place.1
      ∧ (violation.place.2.1 < other.place.2.1 ∨ violation.place.2.1 = other.place.2.1
        ∧ violation.place.2.2 < other.place.2.2) := by
  rw [Earlier, Prod.lex_def, Prod.lex_def]

theorem Earlier.asymmetric (violation other : Violation) (less : violation.Earlier other) :
    ¬ other.Earlier violation := by
  rw [earlier_iff] at less ⊢
  omega

end Violation

/-! ## The check -/

theorem findsFirst_checkSizes (index : Nat) (inputs : List InputSetup) :
    FindsFirst Violation.Earlier
      (fun error => ∃ offset violation, error = .inputSize (index + offset) violation
        ∧ ∃ input, inputs[offset]? = some input ∧ input.Violates violation)
      (checkSizes index inputs) := by
  induction inputs generalizing index with
  | nil => exact .nothing (by simp)
  | cons first others ih =>
    have here : FindsFirst Violation.Earlier (fun error => ∃ own, first.Violates own ∧ error = .inputSize index own)
        (first.check.mapError (.inputSize index)) :=
      first.findsFirst_check.mapError fun error other less =>
        Violation.earlier_iff.2 (by simp [Violation.place, less])
    refine (here.seq (ih (index + 1)) ?_).congr fun error => ⟨?_, ?_⟩
    · rintro _ _ ⟨own, -, rfl⟩ ⟨offset, violation, rfl, -⟩
      exact Violation.earlier_iff.2 (by simp [Violation.place]; omega)
    · rintro (⟨own, wrong, rfl⟩ | ⟨offset, violation, rfl, input, there, wrong⟩)
      · exact ⟨0, own, rfl, first, rfl, wrong⟩
      · exact ⟨offset + 1, violation, by rw [Nat.add_right_comm, Nat.add_assoc], input, there, wrong⟩
    · rintro ⟨offset, violation, rfl, input, there, wrong⟩
      cases offset with
      | zero =>
        obtain rfl := Option.some.inj there
        exact .inl ⟨violation, wrong, rfl⟩
      | succ offset =>
        exact .inr ⟨offset, violation, by rw [Nat.add_right_comm, Nat.add_assoc], input, there, wrong⟩

theorem repeats_at (before : List InputSetup) (input : InputSetup) (others : List InputSetup)
    (address : SocketAddress) : Repeats (before ++ input :: others) before.length address
      ↔ address = input.listen ∧ input.listen.port ≠ 0 ∧ ∃ other ∈ before, other.listen = input.listen := by
  have own : (before ++ input :: others)[before.length]? = some input := by simp
  constructor
  · rintro ⟨port, ⟨_, there, rfl⟩, earlier, below, other, found, same⟩
    obtain rfl := Option.some.inj (own.symm.trans there)
    rw [List.getElem?_append_left below] at found
    exact ⟨rfl, port, other, List.mem_of_getElem? found, same⟩
  · rintro ⟨rfl, port, other, there, same⟩
    obtain ⟨earlier, found⟩ := List.mem_iff_getElem?.1 there
    obtain ⟨below, -⟩ := List.getElem?_eq_some_iff.1 found
    exact ⟨port, ⟨input, own, rfl⟩, earlier, below, other, by rw [List.getElem?_append_left below, found], same⟩

theorem findsFirst_checkAddresses (before inputs : List InputSetup) :
    FindsFirst Violation.Earlier
      (fun error => ∃ index address, error = .duplicateListen index address ∧ before.length ≤ index
        ∧ Repeats (before ++ inputs) index address)
      (checkAddresses before inputs) := by
  induction inputs generalizing before with
  | nil =>
    refine .nothing ?_
    rintro _ ⟨index, _, -, beyond, -, ⟨input, there, -⟩, -⟩
    rw [List.append_nil, List.getElem?_eq_none beyond] at there
    cases there
  | cons first others ih =>
    -- The inputs before and behind a place are all the inputs, wherever the check has come to.
    have whole : before ++ [first] ++ others = before ++ first :: others := by simp
    have behind := ih (before ++ [first])
    rw [whole, List.length_append, List.length_singleton] at behind
    refine ((FindsFirst.require _ _).seq behind ?_).congr fun error => ⟨?_, ?_⟩
    · rintro _ _ ⟨rfl, -⟩ ⟨index, address, rfl, beyond, -⟩
      exact Violation.earlier_iff.2 (by simp [Violation.place]; omega)
    · rintro (⟨rfl, refused⟩ | ⟨index, address, rfl, beyond, repeats⟩)
      · refine ⟨before.length, first.listen, rfl, Nat.le_refl _, (repeats_at ..).2 ⟨rfl, ?_⟩⟩
        simpa using refused
      · exact ⟨index, address, rfl, by omega, repeats⟩
    · rintro ⟨index, address, rfl, beyond, repeats⟩
      rcases Nat.eq_or_lt_of_le beyond with rfl | beyond
      · obtain ⟨rfl, taken⟩ := (repeats_at ..).1 repeats
        exact .inl ⟨rfl, by simpa using taken⟩
      · exact .inr ⟨index, address, rfl, beyond, repeats⟩

theorem findsFirst_check (setup : Setup) : FindsFirst Violation.Earlier setup.Violates setup.check := by
  refine FindsFirst.congr (.seq (.require _ _) (.seq (.require _ _) (.seq (.require _ _)
    (.seq (findsFirst_checkSizes 0 setup.inputs) (findsFirst_checkAddresses [] setup.inputs) ?_) ?_) ?_) ?_)
    fun error => ?_
  · rintro _ _ ⟨_, _, rfl, -⟩ ⟨_, _, rfl, -⟩
    exact Violation.earlier_iff.2 (.inl (by simp [Violation.place]))
  · rintro _ _ ⟨rfl, -⟩ (⟨_, _, rfl, -⟩ | ⟨_, _, rfl, -⟩) <;>
      exact Violation.earlier_iff.2 (.inl (by simp [Violation.place]))
  · rintro _ _ ⟨rfl, -⟩ (⟨rfl, -⟩ | ⟨_, _, rfl, -⟩ | ⟨_, _, rfl, -⟩) <;>
      exact Violation.earlier_iff.2 (.inl (by simp [Violation.place]))
  · rintro _ _ ⟨rfl, -⟩ (⟨rfl, -⟩ | ⟨rfl, -⟩ | ⟨_, _, rfl, -⟩ | ⟨_, _, rfl, -⟩) <;>
      exact Violation.earlier_iff.2 (.inl (by simp [Violation.place]))
  · cases error <;>
      simp [Violates, inRange_eq_false_iff, maxQueueSize, maxDrainTimeoutSecs, and_assoc]

/-! ## Setups that fit -/

/-- What a setup has to be: nothing `Violates` it. -/
structure Fits (setup : Setup) : Prop where
  inputs : setup.inputs ≠ []
  outgoingQueueSize : Within 10000000 setup.outgoingQueueSize
  drainTimeoutSecs : Within 3600 setup.drainTimeoutSecs
  workers : ∀ input ∈ setup.inputs, Within 1024 input.workers
  decodeWorkers : ∀ input ∈ setup.inputs, Within 1024 input.decodeWorkers
  queueSize : ∀ input ∈ setup.inputs, Within 10000000 input.queueSize
  /-- No two inputs listen at one address, unless the system is to choose the port, as `Repeats` has it. -/
  apart : setup.inputs.Pairwise fun input later => later.listen.port ≠ 0 → input.listen ≠ later.listen

theorem fits_iff {setup : Setup} : setup.Fits ↔ ∀ violation, ¬ setup.Violates violation := by
  constructor
  · intro fits violation wrong
    cases violation with
    | noInputs => exact fits.inputs wrong
    | outgoingQueueSize => exact wrong fits.outgoingQueueSize
    | drainTimeout => exact wrong fits.drainTimeoutSecs
    | inputSize index violation =>
      obtain ⟨input, found, wrong⟩ := wrong
      have there := List.mem_of_getElem? found
      cases violation with
      | workers => exact wrong (fits.workers input there)
      | decodeWorkers => exact wrong (fits.decodeWorkers input there)
      | queueSize => exact wrong (fits.queueSize input there)
    | duplicateListen index address =>
      obtain ⟨port, ⟨input, found, rfl⟩, earlier, below, other, foundToo, same⟩ := wrong
      obtain ⟨_, rfl⟩ := List.getElem?_eq_some_iff.1 found
      obtain ⟨_, rfl⟩ := List.getElem?_eq_some_iff.1 foundToo
      exact List.pairwise_iff_getElem.1 fits.apart earlier index _ _ below port same
    | protocol _ => exact wrong
    | inputProtocol _ _ => exact wrong
    | inputListen _ _ => exact wrong
  · intro none
    have sizes : ∀ input ∈ setup.inputs, ∀ violation, ¬ input.Violates violation := by
      intro input there violation wrong
      obtain ⟨index, found⟩ := List.mem_iff_getElem?.1 there
      exact none (.inputSize index violation) ⟨input, found, wrong⟩
    exact {
      inputs := none .noInputs
      outgoingQueueSize := Decidable.not_not.1 (none .outgoingQueueSize)
      drainTimeoutSecs := Decidable.not_not.1 (none .drainTimeout)
      workers := fun input there => Decidable.not_not.1 (sizes input there .workers)
      decodeWorkers := fun input there => Decidable.not_not.1 (sizes input there .decodeWorkers)
      queueSize := fun input there => Decidable.not_not.1 (sizes input there .queueSize)
      apart := by
        refine List.pairwise_iff_getElem.2 fun earlier index _ _ below port same => ?_
        exact none (.duplicateListen index setup.inputs[index].listen) ⟨port,
          ⟨_, List.getElem?_eq_getElem _, rfl⟩, earlier, below, _, List.getElem?_eq_getElem _, same⟩ }

/-- A setup passes `Setup.check` if it `Fits`, and only then. -/
theorem check_eq_ok_iff {setup : Setup} : setup.check = .ok () ↔ setup.Fits :=
  setup.findsFirst_check.eq_ok_iff.trans fits_iff.symm

/-- In a setup that passes, the outgoing queue has a place, so a worker that waits for one can get it. -/
theorem outgoingQueueSize_pos {setup : Setup} (h : setup.check = .ok ()) : 0 < setup.outgoingQueueSize.toNat :=
  (check_eq_ok_iff.1 h).outgoingQueueSize.1

/-- In a setup that passes, every input has a decode worker, so a datagram that was taken can be decoded. -/
theorem decodeWorkers_pos {setup : Setup} (h : setup.check = .ok ()) :
    ∀ input ∈ setup.inputs, 0 < input.decodeWorkers.toNat :=
  fun input there => ((check_eq_ok_iff.1 h).decodeWorkers input there).1

/-- In a setup that passes, every input has a place for a datagram, so not every one is dropped. -/
theorem queueSize_pos {setup : Setup} (h : setup.check = .ok ()) : ∀ input ∈ setup.inputs, 0 < input.queueSize.toNat :=
  fun input there => ((check_eq_ok_iff.1 h).queueSize input there).1

namespace Draft

/-- Inputs that are taken one by one by `withInput` stand in that order, behind those there were. -/
theorem foldl_withInput (draft : Draft) (inputs : List InputSetup) :
    inputs.foldl withInput draft = draft.withInputs (draft.setup.inputs ++ inputs) := by
  induction inputs generalizing draft with
  | nil => simp [withInputs]
  | cons input others ih =>
    rw [List.foldl_cons, ih]
    simp [withInput, withInputs]

/-- Every setup can be drafted, so that a statement about every `Setup` is one about every `Draft`. -/
theorem blank_completed (setup : Setup) : ((setup.inputs.foldl withInput blank).withOutgoingQueueSize
    setup.outgoingQueueSize).withDrainTimeoutSecs setup.drainTimeoutSecs = ⟨setup⟩ := by
  rw [foldl_withInput]
  rfl

end Draft

end Setup

theorem Collector.build_eq_ok_iff {setup : Setup} {collector : Collector} :
    Collector.build setup = .ok collector ↔ setup.check = .ok () ∧ collector = .create setup :=
  checked_eq_ok_iff.trans (and_congr mapError_eq_ok_iff Iff.rfl)

theorem Collector.build_eq_error_iff {setup : Setup} {error : CollectorError} :
    Collector.build setup = .error error ↔ ∃ violation, setup.check = .error violation ∧ error = .setup violation :=
  checked_eq_error_iff.trans mapError_eq_error_iff

/-- A setup passes if it fits. Else the check gives the one violation that is told before all others there are, and
neither a draft nor a collector is built of it: both fail with just that. -/
theorem setup_check_exact (setup : Setup) :
    (setup.check = .ok () ↔ setup.Fits)
      ∧ (∀ violation, setup.check = .error violation
          ↔ setup.Violates violation ∧ ∀ other, setup.Violates other → other = violation ∨ violation.Earlier other)
      ∧ (∀ built, Setup.Draft.build ⟨setup⟩ = .ok built ↔ setup.check = .ok () ∧ built = setup)
      ∧ (∀ violation, Setup.Draft.build ⟨setup⟩ = .error violation ↔ setup.check = .error violation)
      ∧ (∀ collector, Collector.build setup = .ok collector ↔ setup.check = .ok () ∧ collector = .create setup)
      ∧ ∀ error, Collector.build setup = .error error
          ↔ ∃ violation, setup.check = .error violation ∧ error = .setup violation := by
  refine ⟨Setup.check_eq_ok_iff, fun violation => ?_, fun built => checked_eq_ok_iff,
    fun violation => checked_eq_error_iff, fun collector => Collector.build_eq_ok_iff,
    fun error => Collector.build_eq_error_iff⟩
  exact setup.findsFirst_check.eq_error_iff Setup.Violation.Earlier.asymmetric

/-- Addresses with two scopes are two addresses, and a size is told before an address whatever inputs they are of. -/
example :
    let address (scope : UInt32) : SocketAddress := .v6 .unspecified scope 2055
    let input (scope : UInt32) (workers : UInt64) : InputSetup := ⟨.netflow, address scope, workers, 1, 1⟩
    Setup.check ⟨[input 0 1, input 7 1024], 1, 3600⟩ = .ok ()
      ∧ Setup.check ⟨[input 0 1, input 0 1, input 7 1024], 1, 3600⟩ = .error (.duplicateListen 1 (address 0))
      ∧ Setup.check ⟨[input 0 1, input 0 1, input 7 1025], 1, 3600⟩ = .error (.inputSize 2 .workers)
      ∧ Setup.Draft.blank.build = .error .noInputs :=
  ⟨rfl, rfl, rfl, rfl⟩

end FlowCollector
