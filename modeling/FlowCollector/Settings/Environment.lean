import FlowCollector.Settings
import FlowCollector.Text.Numeral

/-!
# Settings from the environment

Seven settings can be set by a variable each, instead of what the file says. A variable that does not read
as a value of its setting is passed over, as if it were not there. What it is set to is not checked
here: a log level is any text.
-/

set_option autoImplicit false

namespace FlowCollector

/-- The variables that are set, by name. A name that is not set has none. -/
abbrev Environment := String → Option String

namespace Environment

/-- The variables that settings are read from by `Settings.override`, and no others. -/
def names : List String :=
  ["IRONFLOW_GENERAL_LOG_LEVEL", "IRONFLOW_GENERAL_LOG_FORMAT", "IRONFLOW_FLOW_OUTGOING_QUEUE_SIZE",
    "IRONFLOW_FLOW_DRAIN_TIMEOUT_SECS", "IRONFLOW_METRICS_ENABLED", "IRONFLOW_METRICS_LISTEN_ADDR",
    "IRONFLOW_METRICS_PORT"]

/-- The variables of a list. The first of a name counts. -/
def ofList (assignments : List (String × String)) : Environment := fun name =>
  (assignments.find? (·.1 == name)).map (·.2)

/-- A variable as a value, or else the value that the setting has, if the variable is not set or `read?` has no value
for its text. -/
def override {α : Type} (environment : Environment) (name : String) (read? : String → Option α)
    (value : α) : α :=
  ((environment name).bind read?).getD value

/-- A variable as a number below a limit, by `Numeral.unsigned?`. -/
def number? (limit : Nat) (text : String) : Option Nat := Numeral.unsigned? limit text.toList

/-- A variable as a number of sixty-four bits, by `number?`. -/
def word? (text : String) : Option UInt64 := (number? UInt64.size text).map .ofNat

/-- A variable as a port, which is a `number?` of sixteen bits. -/
def port? (text : String) : Option UInt16 := (number? UInt16.size text).map .ofNat

/-- A variable as a choice between yes and no: two texts, and no other spelling of them. -/
def flag? (text : String) : Option Bool :=
  if text = "true" then some true
  else if text = "false" then some false
  else none

end Environment

/-- The settings with the environment applied: each of seven by `Environment.override` with its own variable, and the
others as they are. -/
def Settings.override (settings : Settings) (environment : Environment) : Settings where
  general := { settings.general with
    logLevel := environment.override "IRONFLOW_GENERAL_LOG_LEVEL" some settings.general.logLevel
    logFormat := environment.override "IRONFLOW_GENERAL_LOG_FORMAT" some settings.general.logFormat }
  flow := { settings.flow with
    outgoingQueueSize :=
      environment.override "IRONFLOW_FLOW_OUTGOING_QUEUE_SIZE" Environment.word?
        settings.flow.outgoingQueueSize
    drainTimeoutSecs :=
      environment.override "IRONFLOW_FLOW_DRAIN_TIMEOUT_SECS" Environment.word?
        settings.flow.drainTimeoutSecs }
  metrics := { settings.metrics with
    enabled := environment.override "IRONFLOW_METRICS_ENABLED" Environment.flag?
      settings.metrics.enabled
    listenAddress := environment.override "IRONFLOW_METRICS_LISTEN_ADDR" some
      settings.metrics.listenAddress
    port := environment.override "IRONFLOW_METRICS_PORT" Environment.port? settings.metrics.port }

end FlowCollector
