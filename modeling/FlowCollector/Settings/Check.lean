import FlowCollector.Settings

/-!
# Checking settings

The first thing that is wrong, in the order of the file: general settings, then the collector's and its
inputs one by one, then the endpoint. This check is not the last one: it takes every listen address but
the empty one, and every size but zero. Nor does it read anything: the protocols are a list of names here.
-/

set_option autoImplicit false

namespace FlowCollector

/-- What can be wrong with one input, in the order in which `InputSettings.check` looks. -/
inductive InputSettings.Violation where
  | decoder
  | listen
  | workers
  | queueSize
  | decodeWorkers
  deriving DecidableEq, Repr

/-- What can be wrong with settings, in the order in which `Settings.check` looks. -/
inductive Settings.Violation where
  | logLevel
  | logFormat
  | outgoingQueueSize
  | noInputs
  | input (index : Nat) (violation : InputSettings.Violation)
  | endpoint
  deriving DecidableEq, Repr

namespace Settings

def logLevels : List String := ["trace", "debug", "info", "warn", "error"]

def logFormats : List String := ["json", "pretty"]

/-- The protocols an input may have, a list of its own beside `Protocol.ofName?`. -/
def protocolNames : List String := ["netflow", "sflow"]

def metricsPath : String := "/metrics"

/-- Names, as the `reason` of a complaint lists them. -/
def listed (names : List String) : String := ", ".intercalate names

end Settings

namespace InputSettings.Violation

/-- The setting of the input that is wrong, by its key in a section. -/
def setting : Violation → String
  | decoder => "decoder"
  | listen => "listen"
  | workers => "workers"
  | queueSize => "queue_size"
  | decodeWorkers => "decode_workers"

/-- What is wrong with it, in the words that an error has for it. -/
def reason : Violation → String
  | decoder => s!"must be one of: {Settings.listed Settings.protocolNames}"
  | listen => "listen address must not be empty"
  | workers => "must be greater than 0"
  | queueSize => "must be greater than 0"
  | decodeWorkers => "must be greater than 0"

end InputSettings.Violation

namespace Settings.Violation

/-- The setting that is wrong, with its section in front. One of an input has the number of the input in it. -/
def setting : Violation → String
  | logLevel => "general.log_level"
  | logFormat => "general.log_format"
  | outgoingQueueSize => "flow.outgoing_queue_size"
  | noInputs => "flow.inputs"
  | input index violation => s!"flow.inputs[{index}].{violation.setting}"
  | endpoint => "metrics.endpoint"

/-- What is wrong with it, in the words that an error has for it. -/
def reason : Violation → String
  | logLevel => s!"must be one of: {listed logLevels}"
  | logFormat => s!"must be one of: {listed logFormats}"
  | outgoingQueueSize => "must be greater than 0"
  | noInputs => "at least one input must be configured"
  | input _ violation => violation.reason
  | endpoint => s!"only '{metricsPath}' is supported"

end Settings.Violation

/-- Refuses with the error, unless something holds. Checks are rows of these, so the first that refuses is told. -/
def require {ε : Type} (condition : Bool) (error : ε) : Except ε Unit :=
  if condition then .ok () else .error error

/-- Checks one input. Its address may be any text but the empty one. -/
def InputSettings.check (input : InputSettings) : Except InputSettings.Violation Unit := do
  require (Settings.protocolNames.contains input.decoder) .decoder
  require (input.listen != "") .listen
  require (input.workers != 0) .workers
  require (input.queueSize != 0) .queueSize
  require (input.decodeWorkers != 0) .decodeWorkers

namespace Settings

/-- Checks inputs by `InputSettings.check`, which are numbered from `index` on. -/
def checkInputs (index : Nat) : List InputSettings → Except Violation Unit
  | [] => .ok ()
  | input :: others => do
    input.check.mapError (.input index)
    checkInputs (index + 1) others

/-- Checks all settings: the log, the sizes of the collector, its inputs by `checkInputs`, and the endpoint. How long
stopping waits is not looked at. -/
def check (settings : Settings) : Except Violation Unit := do
  require (logLevels.contains settings.general.logLevel) .logLevel
  require (logFormats.contains settings.general.logFormat) .logFormat
  require (settings.flow.outgoingQueueSize != 0) .outgoingQueueSize
  require (!settings.flow.inputs.isEmpty) .noInputs
  checkInputs 0 settings.flow.inputs
  require (!settings.metrics.enabled || settings.metrics.endpoint == metricsPath) .endpoint

end Settings

end FlowCollector
