import FlowCollector.Proofs.Setup
import FlowCollector.Proofs.Text
import Mathlib.Data.List.Forall2
import Mathlib.Tactic.MkIffOfInductiveProp

/-!
# Settings and setups

Settings are checked twice: as they are written, and once more as a setup after they have been read. The two checks were
written apart, each with its own list of protocols, its own bounds and its own order. Here is that they fit together all
the same.

The second check is the stricter one, so what passes there has passed the first. The other way round settings that pass
the first check can be read, but for an address that is none: the first check lets every text pass there that is not
empty. So reading ends at the first input with such a text, and it names that input.
-/

set_option autoImplicit false

namespace FlowCollector

open List (Forall₂)

/-! ## Settings that pass -/

theorem Protocol.isSome_ofName?_iff {name : String} : (ofName? name).isSome ↔ name ∈ Settings.protocolNames := by
  unfold ofName? Settings.protocolNames
  split_ifs <;> simp_all

/-- What the settings of an input have to be for `Settings.check`. Any text may be an address here, if there is
one. -/
@[mk_iff]
structure InputSettings.Acceptable (input : InputSettings) : Prop where
  decoder : input.decoder ∈ Settings.protocolNames
  listen : input.listen ≠ ""
  workers : input.workers ≠ 0
  queueSize : input.queueSize ≠ 0
  decodeWorkers : input.decodeWorkers ≠ 0

theorem InputSettings.check_eq_ok_iff {input : InputSettings} : input.check = .ok () ↔ input.Acceptable := by
  simp only [check, seq_eq_ok_iff, require_eq_ok_iff, List.contains_iff_mem, bne_iff_ne, acceptable_iff]

namespace Settings

/-- What settings have to be for `check`. How long stopping waits is not looked at. -/
@[mk_iff]
structure Acceptable (settings : Settings) : Prop where
  logLevel : settings.general.logLevel ∈ logLevels
  logFormat : settings.general.logFormat ∈ logFormats
  outgoingQueueSize : settings.flow.outgoingQueueSize ≠ 0
  nonempty : settings.flow.inputs ≠ []
  inputs : ∀ input ∈ settings.flow.inputs, input.Acceptable
  endpoint : settings.metrics.enabled = true → settings.metrics.endpoint = metricsPath

theorem checkInputs_eq_ok_iff {index : Nat} {inputs : List InputSettings} :
    checkInputs index inputs = .ok () ↔ ∀ input ∈ inputs, input.Acceptable := by
  induction inputs generalizing index with
  | nil => simp [checkInputs]
  | cons first others ih =>
    simp only [checkInputs, seq_eq_ok_iff, mapError_eq_ok_iff, InputSettings.check_eq_ok_iff, ih, List.forall_mem_cons]

/-- Settings pass if they are `Acceptable`, and only then. -/
theorem check_eq_ok_iff {settings : Settings} : settings.check = .ok () ↔ settings.Acceptable := by
  have endpoint : (!settings.metrics.enabled || settings.metrics.endpoint == metricsPath) = true
      ↔ (settings.metrics.enabled = true → settings.metrics.endpoint = metricsPath) := by
    cases settings.metrics.enabled <;> simp
  simp only [check, seq_eq_ok_iff, require_eq_ok_iff, checkInputs_eq_ok_iff, endpoint, List.contains_iff_mem,
    bne_iff_ne, Bool.not_eq_true', List.isEmpty_eq_false_iff, acceptable_iff]

end Settings

/-! ## Settings that are read -/

/-- What `InputSetup.ofSettings` read of the settings of an input: its protocol and its address, and the sizes as they
are. -/
structure InputSetup.IsOf (setup : InputSetup) (input : InputSettings) : Prop where
  protocol : Protocol.ofName? input.decoder = some setup.protocol
  listen : SocketAddress.ofText? input.listen = some setup.listen
  workers : setup.workers = input.workers
  queueSize : setup.queueSize = input.queueSize
  decodeWorkers : setup.decodeWorkers = input.decodeWorkers

namespace InputSetup

variable {index : Nat} {input : InputSettings} {setup : InputSetup} {violation : Setup.Violation}

theorem ofSettings_eq_ok_iff : ofSettings index input = .ok setup ↔ setup.IsOf input := by
  unfold ofSettings
  constructor
  · intro h
    split at h
    · cases h
    · next protocol named =>
      split at h
      · cases h
      · next listen read =>
        obtain rfl := Except.ok.inj h
        exact ⟨named, read, rfl, rfl, rfl⟩
  · rintro ⟨named, read, workers, queueSize, decodeWorkers⟩
    rw [named]
    simp only [read, ← workers, ← queueSize, ← decodeWorkers]

/-- The protocol of an input is read before its address, so where neither can be read it is the protocol that is
told. -/
theorem ofSettings_eq_error_iff : ofSettings index input = .error violation
    ↔ Protocol.ofName? input.decoder = none ∧ violation = .inputProtocol index input.decoder
      ∨ (Protocol.ofName? input.decoder).isSome ∧ SocketAddress.ofText? input.listen = none
        ∧ violation = .inputListen index input.listen := by
  unfold ofSettings
  cases Protocol.ofName? input.decoder with
  | none => simp [eq_comm]
  | some protocol =>
    cases SocketAddress.ofText? input.listen with
    | none => simp [eq_comm]
    | some listen => simp

end InputSetup

namespace Setup

variable {index : Nat} {inputs : List InputSettings} {settings : FlowSettings} {setup : Setup} {violation : Violation}

theorem inputsOfSettings_eq_ok_iff {setups : List InputSetup} :
    inputsOfSettings index inputs = .ok setups ↔ Forall₂ InputSetup.IsOf setups inputs := by
  induction inputs generalizing index setups with
  | nil => simp [inputsOfSettings, eq_comm]
  | cons first others ih =>
    simp only [inputsOfSettings, bind_eq_ok_iff, InputSetup.ofSettings_eq_ok_iff, ih, List.forall₂_cons_right_iff]
    constructor
    · rintro ⟨own, readFirst, rest, readOthers, given⟩
      exact ⟨own, rest, readFirst, readOthers, (Except.ok.inj given).symm⟩
    · rintro ⟨own, rest, readFirst, readOthers, rfl⟩
      exact ⟨own, readFirst, rest, readOthers, rfl⟩

/-- Reading inputs fails as reading one of them does, and those before it can be read. The violation has the number of
that input. -/
theorem inputsOfSettings_eq_error_iff : inputsOfSettings index inputs = .error violation
    ↔ ∃ offset input, inputs[offset]? = some input ∧ InputSetup.ofSettings (index + offset) input = .error violation
      ∧ ∀ before < offset, ∀ other, inputs[before]? = some other → ∃ own : InputSetup, own.IsOf other := by
  induction inputs generalizing index with
  | nil => simp [inputsOfSettings]
  | cons first others ih =>
    simp only [inputsOfSettings, bind_eq_error_iff, InputSetup.ofSettings_eq_ok_iff, ih, pure_ne_error, and_false,
      exists_false, or_false]
    constructor
    · rintro (failed | ⟨own, readFirst, offset, input, there, failed, readable⟩)
      · exact ⟨0, first, rfl, failed, fun before below => absurd below (Nat.not_lt_zero _)⟩
      · refine ⟨offset + 1, input, there, by rwa [Nat.add_right_comm, Nat.add_assoc] at failed, ?_⟩
        intro before below other found
        cases before with
        | zero =>
          obtain rfl := Option.some.inj found
          exact ⟨own, readFirst⟩
        | succ before => exact readable before (Nat.lt_of_succ_lt_succ below) other found
    · rintro ⟨offset, input, there, failed, readable⟩
      cases offset with
      | zero =>
        obtain rfl := Option.some.inj there
        exact .inl failed
      | succ offset =>
        obtain ⟨own, readFirst⟩ := readable 0 (Nat.succ_pos _) first rfl
        refine .inr ⟨own, readFirst, offset, input, there, by rwa [Nat.add_right_comm, Nat.add_assoc], ?_⟩
        exact fun before below other found => readable (before + 1) (Nat.succ_lt_succ below) other found

theorem ofSettings_eq_ok_iff : ofSettings settings = .ok setup
    ↔ Forall₂ InputSetup.IsOf setup.inputs settings.inputs ∧ setup.outgoingQueueSize = settings.outgoingQueueSize
      ∧ setup.drainTimeoutSecs = settings.drainTimeoutSecs := by
  simp only [ofSettings, bind_eq_ok_iff, inputsOfSettings_eq_ok_iff]
  constructor
  · rintro ⟨inputs, read, given⟩
    obtain rfl := Except.ok.inj given
    exact ⟨read, rfl, rfl⟩
  · rintro ⟨read, outgoingQueueSize, drainTimeoutSecs⟩
    refine ⟨setup.inputs, read, ?_⟩
    rw [← outgoingQueueSize, ← drainTimeoutSecs]
    rfl

theorem ofSettings_eq_error_iff :
    ofSettings settings = .error violation ↔ inputsOfSettings 0 settings.inputs = .error violation := by
  simp only [ofSettings, bind_eq_error_iff, pure_ne_error, and_false, exists_false, or_false]

end Setup

/-! ## How the two checks fit together -/

/-- The input of this number is the first whose text for an address is none by `SocketAddress.ofText?`. -/
structure FirstUnreadable (inputs : List InputSettings) (index : Nat) (input : InputSettings) : Prop where
  there : inputs[index]? = some input
  unreadable : SocketAddress.ofText? input.listen = none
  earlier : ∀ before < index, ∀ other, inputs[before]? = some other → (SocketAddress.ofText? other.listen).isSome

namespace InputSettings

variable {input : InputSettings} {setup : InputSetup}

/-- A text that was read is not empty, and a size that is `Setup.Within` its bounds is not zero. -/
theorem acceptable_of_isOf (read : setup.IsOf input) (workers : Setup.Within 1024 setup.workers)
    (decodeWorkers : Setup.Within 1024 setup.decodeWorkers) (queueSize : Setup.Within 10000000 setup.queueSize) :
    input.Acceptable where
  decoder := Protocol.isSome_ofName?_iff.1 (by rw [read.protocol]; rfl)
  listen := by
    intro empty
    have listen := read.listen
    rw [empty] at listen
    cases listen
  workers := by
    rw [← read.workers]
    exact workers.ne_zero
  queueSize := by
    rw [← read.queueSize]
    exact queueSize.ne_zero
  decodeWorkers := by
    rw [← read.decodeWorkers]
    exact decodeWorkers.ne_zero

/-- Of `Acceptable` settings only the address can be unreadable: they name a protocol that there is. -/
theorem Acceptable.readable_iff (acceptable : input.Acceptable) :
    (∃ setup : InputSetup, setup.IsOf input) ↔ (SocketAddress.ofText? input.listen).isSome := by
  constructor
  · rintro ⟨setup, read⟩
    rw [read.listen]
    rfl
  · intro readable
    obtain ⟨protocol, named⟩ := Option.isSome_iff_exists.1 (Protocol.isSome_ofName?_iff.2 acceptable.decoder)
    obtain ⟨listen, read⟩ := Option.isSome_iff_exists.1 readable
    exact ⟨⟨protocol, listen, input.workers, input.queueSize, input.decodeWorkers⟩, named, read, rfl, rfl, rfl⟩

theorem Acceptable.ofSettings_eq_error_iff (acceptable : input.Acceptable) {index : Nat} {violation : Setup.Violation} :
    InputSetup.ofSettings index input = .error violation
      ↔ SocketAddress.ofText? input.listen = none ∧ violation = .inputListen index input.listen := by
  obtain ⟨protocol, named⟩ := Option.isSome_iff_exists.1 (Protocol.isSome_ofName?_iff.2 acceptable.decoder)
  simp [InputSetup.ofSettings_eq_error_iff, named]

end InputSettings

namespace Settings

/-- What `Setup.ofSettings` has read of settings and passes as a setup passes as settings. -/
theorem check_of_setup {flow : FlowSettings} {setup : Setup} (read : Setup.ofSettings flow = .ok setup)
    (passes : setup.check = .ok ()) : check { flow } = .ok () := by
  obtain ⟨each, outgoingQueueSize, -⟩ := Setup.ofSettings_eq_ok_iff.1 read
  have fits := Setup.check_eq_ok_iff.1 passes
  refine check_eq_ok_iff.2 {
    logLevel := List.mem_of_elem_eq_true rfl
    logFormat := List.mem_of_elem_eq_true rfl
    outgoingQueueSize := by
      rw [← outgoingQueueSize]
      exact fits.outgoingQueueSize.ne_zero
    nonempty := ?_
    inputs := ?_
    endpoint := fun _ => rfl }
  · intro none
    rw [none, List.forall₂_nil_right_iff] at each
    exact fits.inputs each
  · intro input there
    obtain ⟨index, below, rfl⟩ := List.mem_iff_getElem.1 there
    have too : index < setup.inputs.length := each.length_eq ▸ below
    have among := List.getElem_mem too
    exact InputSettings.acceptable_of_isOf (each.get too below) (fits.workers _ among) (fits.decodeWorkers _ among)
      (fits.queueSize _ among)

/-- Reading settings that are `Acceptable` fails at the first input whose text for an address is none
(`FirstUnreadable`). -/
theorem ofSettings_eq_error_iff {settings : Settings} (acceptable : settings.Acceptable) {violation : Setup.Violation} :
    Setup.ofSettings settings.flow = .error violation
      ↔ ∃ index input, FirstUnreadable settings.flow.inputs index input
        ∧ violation = .inputListen index input.listen := by
  have each {index : Nat} {input : InputSettings} (there : settings.flow.inputs[index]? = some input) :
      input.Acceptable := acceptable.inputs input (List.mem_of_getElem? there)
  rw [Setup.ofSettings_eq_error_iff, Setup.inputsOfSettings_eq_error_iff]
  constructor
  · rintro ⟨index, input, there, failed, readable⟩
    rw [Nat.zero_add, (each there).ofSettings_eq_error_iff] at failed
    exact ⟨index, input, ⟨there, failed.1, fun before below other found =>
      (each found).readable_iff.1 (readable before below other found)⟩, failed.2⟩
  · rintro ⟨index, input, ⟨there, unreadable, earlier⟩, named⟩
    refine ⟨index, input, there, ?_, fun before below other found =>
      (each found).readable_iff.2 (earlier before below other found)⟩
    rw [Nat.zero_add, (each there).ofSettings_eq_error_iff]
    exact ⟨unreadable, named⟩

end Settings

/-- A complaint about an address tells which input it is about, by the number in its `setting`. -/
theorem Setup.Violation.index_eq_of_setting {found index : Nat} {text : String}
    (named : (inputListen found text).setting = s!"inputs[{index}].listen") : found = index := by
  have chars := congrArg String.toList named
  simp only [setting, String.toList_append, List.append_assoc, List.append_cancel_left_eq,
    List.append_cancel_right_eq] at chars
  exact toString_injective (String.toList_inj.1 chars)

/-- A `Setup` that passes was read from settings that pass, if the log and the endpoint are left as they are. And
settings that pass `Settings.check` can be read by `Setup.ofSettings`, or they fail at the first input whose text for
an address is none (`FirstUnreadable`): this one is named then, and never a protocol. -/
theorem checks_fit_together :
    (∀ (flow : FlowSettings) (setup : Setup), Setup.ofSettings flow = .ok setup → setup.check = .ok () →
        Settings.check { flow } = .ok ())
      ∧ ∀ settings : Settings, settings.check = .ok () →
        (∀ index name, Setup.ofSettings settings.flow ≠ .error (.inputProtocol index name))
          ∧ (∀ violation, Setup.ofSettings settings.flow = .error violation
              ↔ ∃ index input, FirstUnreadable settings.flow.inputs index input
                ∧ violation = .inputListen index input.listen)
          ∧ ∀ index, (∃ violation, Setup.ofSettings settings.flow = .error violation
                ∧ violation.setting = s!"inputs[{index}].listen")
              ↔ ∃ input, FirstUnreadable settings.flow.inputs index input := by
  refine ⟨fun flow setup => Settings.check_of_setup, fun settings passes => ?_⟩
  have acceptable := Settings.check_eq_ok_iff.1 passes
  refine ⟨fun index name failed => ?_, fun violation => Settings.ofSettings_eq_error_iff acceptable,
    fun index => ⟨?_, ?_⟩⟩
  · obtain ⟨_, _, -, named⟩ := (Settings.ofSettings_eq_error_iff acceptable).1 failed
    cases named
  · rintro ⟨violation, failed, named⟩
    obtain ⟨found, input, first, rfl⟩ := (Settings.ofSettings_eq_error_iff acceptable).1 failed
    obtain rfl := Setup.Violation.index_eq_of_setting named
    exact ⟨input, first⟩
  · rintro ⟨input, first⟩
    exact ⟨.inputListen index input.listen,
      (Settings.ofSettings_eq_error_iff acceptable).2 ⟨index, input, first, rfl⟩, rfl⟩

/-- An address with a scope is read, and then a name and an address without a port are none: the name is told. -/
theorem checks_fit_together_of_name :
    let named : Settings := { flow := { inputs := [⟨"netflow", "[fe80::1%7]:2055", 1, 1, 1⟩,
      ⟨"sflow", "localhost:6343", 2000, 1, 1⟩, ⟨"netflow", "0.0.0.0", 1, 1, 1⟩] } }
    (Setup.ofSettings {} = .ok ⟨[⟨.netflow, .v4 .unspecified 2055, 1, 100000, 1⟩,
        ⟨.sflow, .v4 .unspecified 6343, 1, 100000, 1⟩], 10000, 5⟩ ∧ Settings.check {} = .ok ())
      ∧ named.check = .ok () ∧ Setup.ofSettings named.flow = .error (.inputListen 1 "localhost:6343") := by
  intro named
  have read : Setup.ofSettings {} = .ok ⟨[⟨.netflow, .v4 .unspecified 2055, 1, 100000, 1⟩,
      ⟨.sflow, .v4 .unspecified 6343, 1, 100000, 1⟩], 10000, 5⟩ := by decide +kernel
  have passes : named.check = .ok () := by decide +kernel
  obtain ⟨fromSetup, fails⟩ := checks_fit_together
  refine ⟨⟨read, fromSetup {} _ read rfl⟩, passes, ((fails named passes).2.1 _).2 ⟨1, _, ⟨rfl, ?_, ?_⟩, rfl⟩⟩
  · decide +kernel
  · intro before below other found
    obtain rfl : before = 0 := by omega
    obtain rfl := Option.some.inj found
    decide +kernel

end FlowCollector
