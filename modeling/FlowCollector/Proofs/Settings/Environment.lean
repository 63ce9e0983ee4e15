import FlowCollector.Proofs.Fold
import FlowCollector.Proofs.Settings
import FlowCollector.Settings.File

/-!
# Settings and the environment

Seven settings have a variable each. Which text spells a value is told here without the readers: a number is a row of
digits whose worth the type can hold, whatever zeros and at most one plus sign stand in front of it. Anything else
leaves the setting as the file has it.

Settings are checked on both sides of this, and neither check makes up for the other: a variable can break settings that
were right, and settings that were wrong are refused before any variable is looked at.
-/

set_option autoImplicit false

namespace FlowCollector

/-! ## Numbers as variables spell them -/

namespace Numeral

variable {base value result digit number limit : Nat} {c : Char} {text : List Char}

theorem digit?_eq_some_iff (small : base ≤ 10) : digit? base c = some digit ↔ digit < base ∧ c = digit.digitChar := by
  constructor
  · intro h
    obtain ⟨value, less⟩ := Option.filter_eq_some_iff.1 h
    have less : digit < base := of_decide_eq_true less
    refine ⟨less, Char.toNat_inj.1 ?_⟩
    rw [Nat.toNat_digitChar_of_lt_ten (Nat.lt_of_lt_of_le less small)]
    -- A letter is worth ten at least, so it is no digit of the base.
    unfold digitValue? at value
    split_ifs at value with decimal
    · have atLeast : '0'.toNat ≤ c.toNat := decimal.1
      have worth : c.toNat - '0'.toNat = digit := Option.some.inj value
      have : '0'.toNat = 48 := rfl
      omega
    · have := Option.some.inj value
      omega
    · have := Option.some.inj value
      omega
  · rintro ⟨less, rfl⟩
    exact digit?_digitChar (by omega) less

theorem readOn?_eq_some_iff (small : base ≤ 10) : readOn? base value text = some result
    ↔ ∃ digits : List Nat, (∀ digit ∈ digits, digit < base) ∧ text = digits.map Nat.digitChar
      ∧ result = digits.foldl (fun value digit => value * base + digit) value := by
  induction text generalizing value with
  | nil => simp [readOn?, eq_comm]
  | cons c rest ih =>
    unfold readOn?
    constructor
    · intro h
      cases first : digit? base c with
      | none => simp [first] at h
      | some digit =>
        rw [first] at h
        obtain ⟨less, rfl⟩ := (digit?_eq_some_iff small).1 first
        obtain ⟨digits, bounded, rfl, rfl⟩ := ih.1 h
        exact ⟨digit :: digits, List.forall_mem_cons.2 ⟨less, bounded⟩, rfl, rfl⟩
    · rintro ⟨_ | ⟨digit, digits⟩, bounded, spelled, rfl⟩
      · cases spelled
      · obtain ⟨rfl, rfl⟩ := List.cons.inj spelled
        obtain ⟨less, bounded⟩ := List.forall_mem_cons.1 bounded
        rw [(digit?_eq_some_iff small).2 ⟨less, rfl⟩]
        exact ih.2 ⟨digits, bounded, rfl, rfl⟩

theorem read?_eq_some_iff (small : base ≤ 10) : read? base text = some number
    ↔ ∃ digits : List Nat, digits ≠ [] ∧ (∀ digit ∈ digits, digit < base) ∧ text = digits.map Nat.digitChar
      ∧ number = Nat.ofDigits base digits.reverse := by
  cases text with
  | nil => simp [read?, eq_comm]
  | cons c rest =>
    show readOn? base 0 (c :: rest) = some number ↔ _
    rw [readOn?_eq_some_iff small]
    constructor
    · rintro ⟨digits, bounded, spelled, rfl⟩
      refine ⟨digits, ?_, bounded, spelled, foldl_eq_ofDigits base digits⟩
      rintro rfl
      cases spelled
    · rintro ⟨digits, -, bounded, spelled, rfl⟩
      exact ⟨digits, bounded, spelled, (foldl_eq_ofDigits base digits).symm⟩

/-- The text is a number: digits of base ten, and nothing else but one plus sign that may stand in front. `Numeral`
reads just these. -/
def Spelled (text : List Char) (number : Nat) : Prop :=
  ∃ digits : List Nat, digits ≠ [] ∧ (∀ digit ∈ digits, digit < 10)
    ∧ (text = digits.map Nat.digitChar ∨ text = '+' :: digits.map Nat.digitChar)
    ∧ number = Nat.ofDigits 10 digits.reverse

theorem unsigned?_eq_some_iff : unsigned? limit text = some number ↔ Spelled text number ∧ number < limit := by
  have noPlus {digits : List Nat} {rest : List Char} (bounded : ∀ digit ∈ digits, digit < 10)
      (spelled : '+' :: rest = digits.map Nat.digitChar) : False := by
    obtain ⟨digit, there, plus⟩ := List.mem_map.1 (spelled ▸ List.mem_cons_self)
    have same := congrArg Char.toNat plus
    rw [Nat.toNat_digitChar_of_lt_ten (bounded digit there)] at same
    have : '+'.toNat = 43 := rfl
    omega
  unfold unsigned?
  simp only [Option.filter_eq_some_iff, decide_eq_true_eq]
  refine and_congr_left fun _ => ?_
  rw [read?_eq_some_iff (by decide)]
  split
  · next rest =>
    constructor
    · rintro ⟨digits, some_digit, bounded, rfl, rfl⟩
      exact ⟨digits, some_digit, bounded, .inr rfl, rfl⟩
    · rintro ⟨digits, some_digit, bounded, spelled | spelled, rfl⟩
      · exact (noPlus bounded spelled).elim
      · exact ⟨digits, some_digit, bounded, (List.cons.inj spelled).2, rfl⟩
  · next bare =>
    constructor
    · rintro ⟨digits, some_digit, bounded, rfl, rfl⟩
      exact ⟨digits, some_digit, bounded, .inl rfl, rfl⟩
    · rintro ⟨digits, some_digit, bounded, spelled | spelled, rfl⟩
      · exact ⟨digits, some_digit, bounded, spelled, rfl⟩
      · exact absurd spelled (bare _)

end Numeral

/-! ## Settings with a variable -/

namespace Environment

section

variable {environment : Environment} {name text : String} {α : Type} {read? : String → Option α} {value read : α}

theorem override_of_read (there : environment name = some text) (h : read? text = some read) :
    environment.override name read? value = read := by
  simp [override, there, h]

theorem override_of_unread (h : ∀ text, environment name = some text → read? text = none) :
    environment.override name read? value = value := by
  unfold override
  cases there : environment name with
  | none => rfl
  | some text => rw [Option.bind_some, h text there, Option.getD_none]

theorem override_override :
    environment.override name read? (environment.override name read? value)
      = environment.override name read? value := by
  unfold override
  cases (environment name).bind read? <;> rfl

end

/-- A setting that has a variable, with its `name` and its type of `Value`. -/
inductive Setting where
  | logLevel
  | logFormat
  | outgoingQueueSize
  | drainTimeoutSecs
  | metricsEnabled
  | metricsListenAddress
  | metricsPort
  deriving DecidableEq, Repr

namespace Setting

/-- The name of the variable. -/
def name : Setting → String
  | logLevel => "IRONFLOW_GENERAL_LOG_LEVEL"
  | logFormat => "IRONFLOW_GENERAL_LOG_FORMAT"
  | outgoingQueueSize => "IRONFLOW_FLOW_OUTGOING_QUEUE_SIZE"
  | drainTimeoutSecs => "IRONFLOW_FLOW_DRAIN_TIMEOUT_SECS"
  | metricsEnabled => "IRONFLOW_METRICS_ENABLED"
  | metricsListenAddress => "IRONFLOW_METRICS_LISTEN_ADDR"
  | metricsPort => "IRONFLOW_METRICS_PORT"

/-- What the setting can be, by its type in `Settings`. -/
def Value : Setting → Type
  | logLevel | logFormat | metricsListenAddress => String
  | outgoingQueueSize | drainTimeoutSecs => UInt64
  | metricsEnabled => Bool
  | metricsPort => UInt16

/-- What the setting is in some `Settings`. -/
def get (settings : Settings) : (setting : Setting) → setting.Value
  | logLevel => settings.general.logLevel
  | logFormat => settings.general.logFormat
  | outgoingQueueSize => settings.flow.outgoingQueueSize
  | drainTimeoutSecs => settings.flow.drainTimeoutSecs
  | metricsEnabled => settings.metrics.enabled
  | metricsListenAddress => settings.metrics.listenAddress
  | metricsPort => settings.metrics.port

/-- The text is this value, and by `Spelled` where it is a number. Every text is one, if the setting is a text. -/
def Spells (text : String) : (setting : Setting) → setting.Value → Prop
  | logLevel, (value : String) => text = value
  | logFormat, (value : String) => text = value
  | metricsListenAddress, (value : String) => text = value
  | outgoingQueueSize, (value : UInt64) => Numeral.Spelled text.toList value.toNat
  | drainTimeoutSecs, (value : UInt64) => Numeral.Spelled text.toList value.toNat
  | metricsEnabled, (value : Bool) => text = if value then "true" else "false"
  | metricsPort, (value : UInt16) => Numeral.Spelled text.toList value.toNat

/-- How the setting is read from the text of its variable. `Spells` says the same without the reader. -/
def read? : (setting : Setting) → String → Option setting.Value
  | logLevel => some
  | logFormat => some
  | metricsListenAddress => some
  | outgoingQueueSize => word?
  | drainTimeoutSecs => word?
  | metricsEnabled => flag?
  | metricsPort => port?

end Setting

variable {text : String}

theorem number?_eq_some_iff {limit number : Nat} :
    number? limit text = some number ↔ Numeral.Spelled text.toList number ∧ number < limit :=
  Numeral.unsigned?_eq_some_iff

theorem word?_eq_some_iff {value : UInt64} : word? text = some value ↔ Numeral.Spelled text.toList value.toNat := by
  simp only [word?, Option.map_eq_some_iff, number?_eq_some_iff]
  constructor
  · rintro ⟨number, ⟨spelled, less⟩, rfl⟩
    rwa [UInt64.toNat_ofNat_of_lt' less]
  · intro spelled
    exact ⟨value.toNat, ⟨spelled, value.toNat_lt_size⟩, UInt64.ofNat_toNat⟩

theorem port?_eq_some_iff {value : UInt16} : port? text = some value ↔ Numeral.Spelled text.toList value.toNat := by
  simp only [port?, Option.map_eq_some_iff, number?_eq_some_iff]
  constructor
  · rintro ⟨number, ⟨spelled, less⟩, rfl⟩
    rwa [UInt16.toNat_ofNat_of_lt' less]
  · intro spelled
    exact ⟨value.toNat, ⟨spelled, value.toNat_lt_size⟩, UInt16.ofNat_toNat⟩

theorem flag?_eq_some_iff {value : Bool} : flag? text = some value ↔ text = if value then "true" else "false" := by
  unfold flag?
  constructor
  · intro h
    split_ifs at h with yes no
    · obtain rfl := Option.some.inj h
      exact yes
    · obtain rfl := Option.some.inj h
      exact no
  · rintro rfl
    cases value <;> rfl

namespace Setting

variable {environment : Environment} {settings : Settings}

theorem read?_eq_some_iff {setting : Setting} {value : setting.Value} :
    setting.read? text = some value ↔ setting.Spells text value := by
  cases setting
  case logLevel => exact Option.some_inj
  case logFormat => exact Option.some_inj
  case outgoingQueueSize => exact word?_eq_some_iff
  case drainTimeoutSecs => exact word?_eq_some_iff
  case metricsEnabled => exact flag?_eq_some_iff
  case metricsListenAddress => exact Option.some_inj
  case metricsPort => exact port?_eq_some_iff

/-- Every setting that has a variable is set in the same way: `Settings.override` is `Environment.override` for
each. -/
theorem get_override (setting : Setting) : setting.get (settings.override environment)
    = environment.override setting.name setting.read? (setting.get settings) := by
  cases setting <;> rfl

theorem get_override_of_spells {setting : Setting} {value : setting.Value}
    (there : environment setting.name = some text) (spells : setting.Spells text value) :
    setting.get (settings.override environment) = value := by
  rw [get_override, override_of_read there (read?_eq_some_iff.2 spells)]

theorem get_override_of_not_spells {setting : Setting}
    (none : ∀ text, environment setting.name = some text → ∀ value, ¬ setting.Spells text value) :
    setting.get (settings.override environment) = setting.get settings := by
  rw [get_override, override_of_unread fun text there => ?_]
  exact Option.eq_none_iff_forall_not_mem.2 fun value read => none text there value (read?_eq_some_iff.1 read)

end Setting

end Environment

namespace Settings

/-- Settings are those that have a variable, the inputs, and where the endpoint publishes. There is nothing else in
them. -/
theorem eq_of_get {settings other : Settings}
    (each : ∀ setting : Environment.Setting, setting.get settings = setting.get other)
    (inputs : settings.flow.inputs = other.flow.inputs)
    (endpoint : settings.metrics.endpoint = other.metrics.endpoint) : settings = other := by
  obtain ⟨⟨level, format⟩, ⟨own, outgoing, drain⟩, ⟨enabled, listen, port, place⟩⟩ := settings
  obtain ⟨⟨level', format'⟩, ⟨own', outgoing', drain'⟩, ⟨enabled', listen', port', place'⟩⟩ := other
  obtain rfl : level = level' := each .logLevel
  obtain rfl : format = format' := each .logFormat
  obtain rfl : outgoing = outgoing' := each .outgoingQueueSize
  obtain rfl : drain = drain' := each .drainTimeoutSecs
  obtain rfl : enabled = enabled' := each .metricsEnabled
  obtain rfl : listen = listen' := each .metricsListenAddress
  obtain rfl : port = port' := each .metricsPort
  obtain rfl : own = own' := inputs
  obtain rfl : place = place' := endpoint
  rfl

variable {settings : Settings} {environment : Environment} {path content : String}

theorem override_override : (settings.override environment).override environment = settings.override environment := by
  refine eq_of_get (fun setting => ?_) rfl rfl
  rw [setting.get_override, setting.get_override, Environment.override_override]

/-! ## Loading -/

theorem checked_eq_ok_iff {result : Settings} :
    settings.checked = .ok result ↔ settings.check = .ok () ∧ result = settings :=
  FlowCollector.checked_eq_ok_iff.trans (and_congr mapError_eq_ok_iff Iff.rfl)

theorem checked_eq_error_iff {failure : Failure} :
    settings.checked = .error failure
      ↔ ∃ violation, settings.check = .error violation ∧ failure = .settings violation :=
  FlowCollector.checked_eq_error_iff.trans mapError_eq_error_iff

theorem fromFile_of_read (read : Settings.read content = .ok settings) :
    fromFile path (.text content) = settings.checked := by
  rw [fromFile, read]
  rfl

theorem load_eq_ok_iff (read : Settings.read content = .ok settings) {result : Settings} :
    load path (.text content) environment = .ok result
      ↔ settings.check = .ok () ∧ (settings.override environment).check = .ok ()
        ∧ result = settings.override environment := by
  rw [load, fromFile_of_read read, bind_eq_ok_iff]
  constructor
  · rintro ⟨own, before, after⟩
    obtain ⟨before, rfl⟩ := checked_eq_ok_iff.1 before
    exact ⟨before, checked_eq_ok_iff.1 after⟩
  · rintro ⟨before, after⟩
    exact ⟨settings, checked_eq_ok_iff.2 ⟨before, rfl⟩, checked_eq_ok_iff.2 after⟩

theorem load_eq_error_iff (read : Settings.read content = .ok settings) {failure : Failure} :
    load path (.text content) environment = .error failure
      ↔ ∃ violation, failure = .settings violation ∧ (settings.check = .error violation
        ∨ settings.check = .ok () ∧ (settings.override environment).check = .error violation) := by
  rw [load, fromFile_of_read read, bind_eq_error_iff]
  constructor
  · rintro (before | ⟨own, before, after⟩)
    · obtain ⟨violation, wrong, rfl⟩ := checked_eq_error_iff.1 before
      exact ⟨violation, rfl, .inl wrong⟩
    · obtain ⟨before, rfl⟩ := checked_eq_ok_iff.1 before
      obtain ⟨violation, wrong, rfl⟩ := checked_eq_error_iff.1 after
      exact ⟨violation, rfl, .inr ⟨before, wrong⟩⟩
  · rintro ⟨violation, rfl, wrong | ⟨before, wrong⟩⟩
    · exact .inl (checked_eq_error_iff.2 ⟨violation, wrong, rfl⟩)
    · exact .inr ⟨settings, checked_eq_ok_iff.2 ⟨before, rfl⟩, checked_eq_error_iff.2 ⟨violation, wrong, rfl⟩⟩

end Settings

/-- A text that `Settings.read` gives settings for is loaded if they pass as they are written and pass again with
`Settings.override` applied, and then they are loaded as the environment makes them. So what is loaded passes, and
what is wrong in a file is refused in every environment. The environment sets each `Setting` that has a variable, by
its own one and to what that one `Spells`, and leaves it where the variable spells nothing. Nothing else is changed,
and nothing is changed a second time. -/
theorem load_in_environment (settings : Settings) (environment : Environment) :
    let after := settings.override environment
    (∀ path content, Settings.read content = .ok settings →
        (∀ result, Settings.load path (.text content) environment = .ok result
            ↔ settings.check = .ok () ∧ after.check = .ok () ∧ result = after)
          ∧ (∀ failure, Settings.load path (.text content) environment = .error failure
            ↔ ∃ violation, failure = .settings violation ∧ (settings.check = .error violation
              ∨ settings.check = .ok () ∧ after.check = .error violation))
          ∧ (∀ result, Settings.load path (.text content) environment = .ok result → result.check = .ok ())
          ∧ ∀ violation, settings.check = .error violation →
            ∀ other, Settings.load path (.text content) other = .error (.settings violation))
      ∧ (after.flow.inputs = settings.flow.inputs ∧ after.metrics.endpoint = settings.metrics.endpoint)
      ∧ (∀ setting : Environment.Setting,
          (∀ text value, environment setting.name = some text → setting.Spells text value → setting.get after = value)
            ∧ ((∀ text, environment setting.name = some text → ∀ value, ¬ setting.Spells text value) →
              setting.get after = setting.get settings)
            ∧ ∀ (others : Settings) (other : Environment), setting.get others = setting.get settings →
              other setting.name = environment setting.name → setting.get (others.override other) = setting.get after)
      ∧ after.override environment = after := by
  intro after
  refine ⟨fun path content read => ⟨fun result => Settings.load_eq_ok_iff read,
    fun failure => Settings.load_eq_error_iff read, fun result loaded => ?_, fun violation wrong other => ?_⟩,
    ⟨rfl, rfl⟩, fun setting => ⟨fun text value there spells => ?_, fun none => ?_, fun others other own same => ?_⟩,
    Settings.override_override⟩
  · obtain ⟨-, passes, rfl⟩ := (Settings.load_eq_ok_iff read).1 loaded
    exact passes
  · exact (Settings.load_eq_error_iff read).2 ⟨violation, rfl, .inl wrong⟩
  · exact Environment.Setting.get_override_of_spells there spells
  · exact Environment.Setting.get_override_of_not_spells none
  · rw [Environment.Setting.get_override, Environment.Setting.get_override, own, Environment.override,
      Environment.override, same]

/-- A plus sign and zeros are no harm, and a port that is too large for one leaves the port of the file. A level that is
none is not mended by a variable. -/
theorem load_in_environment_of_text :
    let environment : Environment := .ofList [("IRONFLOW_GENERAL_LOG_LEVEL", "debug"),
      ("IRONFLOW_FLOW_DRAIN_TIMEOUT_SECS", "+0030"), ("IRONFLOW_METRICS_PORT", "65536")]
    Settings.load "flow.toml" (.text "[flow]\ndrain_timeout_secs = 9\n[metrics]\nport = 8080\n") environment
        = .ok { general := { logLevel := "debug" }, flow := { drainTimeoutSecs := 30 }, metrics := { port := 8080 } }
      ∧ Settings.load "flow.toml" (.text "[general]\nlog_level = 'loud'\n") environment
        = .error (.settings .logLevel)
      ∧ (Settings.override {} environment).flow.drainTimeoutSecs = 30 := by
  intro environment
  refine ⟨?_, ?_, ?_⟩
  · obtain ⟨loads, -⟩ :=
      load_in_environment { flow := { drainTimeoutSecs := 9 }, metrics := { port := 8080 } } environment
    refine ((loads "flow.toml" _ (by decide +kernel)).1 _).2 ⟨rfl, ?_, ?_⟩
    · decide +kernel
    · decide +kernel
  · obtain ⟨loads, -⟩ := load_in_environment { general := { logLevel := "loud" } } environment
    exact (loads "flow.toml" _ (by decide +kernel)).2.2.2 _ rfl environment
  · obtain ⟨-, -, sets, -⟩ := load_in_environment {} environment
    exact (sets .drainTimeoutSecs).1 "+0030" (30 : UInt64) rfl ⟨[0, 0, 3, 0], by simp, by simp, .inr rfl, rfl⟩

end FlowCollector
