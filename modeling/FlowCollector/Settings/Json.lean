import FlowCollector.Json
import FlowCollector.Settings

/-!
# Settings as JSON

The same sections and keys as in a settings file.
-/

set_option autoImplicit false

namespace FlowCollector

def GeneralSettings.toJson (settings : GeneralSettings) : Json :=
  .record [("log_level", .text settings.logLevel), ("log_format", .text settings.logFormat)]

def InputSettings.toJson (input : InputSettings) : Json :=
  .record [("decoder", .text input.decoder),
    ("listen", .text input.listen),
    ("workers", .natural input.workers.toNat),
    ("queue_size", .natural input.queueSize.toNat),
    ("decode_workers", .natural input.decodeWorkers.toNat)]

/-- The collector's settings as an object, with `InputSettings.toJson` for each input. -/
def FlowSettings.toJson (settings : FlowSettings) : Json :=
  .record [("inputs", .array (settings.inputs.map InputSettings.toJson)),
    ("outgoing_queue_size", .natural settings.outgoingQueueSize.toNat),
    ("drain_timeout_secs", .natural settings.drainTimeoutSecs.toNat)]

def MetricsSettings.toJson (settings : MetricsSettings) : Json :=
  .record [("enabled", .bool settings.enabled),
    ("listen_addr", .text settings.listenAddress),
    ("port", .natural settings.port.toNat),
    ("endpoint", .text settings.endpoint)]

/-- Settings as an object of three sections. -/
def Settings.toJson (settings : Settings) : Json :=
  .record [("general", settings.general.toJson),
    ("flow", settings.flow.toJson),
    ("metrics", settings.metrics.toJson)]

end FlowCollector
