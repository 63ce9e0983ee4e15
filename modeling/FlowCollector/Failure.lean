import FlowCollector.Setup

/-!
# What can fail

Two layers of failure. A `CollectorError` is what the collector itself refuses; a `Failure` is what any request can
come to, files and settings included, and every collector error is one. The constructors are causes, and their wording
stands in `CollectorError.message` and `Failure.message` and nowhere else.

What the system says when it refuses something is kept as the text it gave. What is wrong with a text that is not that
of settings is not kept, and its message ends where that would stand.
-/

set_option autoImplicit false

namespace FlowCollector

/-- What a collector refuses: a setup with a `Setup.Violation`, an address, or a record. -/
inductive CollectorError where
  | setup (violation : Setup.Violation)
  /-- The system gave no socket at an address, as its `Network` tells. -/
  | bind (address : SocketAddress) (reason : String)
  /-- Nobody can receive records any more. -/
  | outgoingClosed
  deriving DecidableEq, Repr

/-- Why a file could not be read, where there is one. -/
inductive FileProblem where
  | isDirectory
  | notUtf8
  | other (reason : String)
  deriving DecidableEq, Repr

/-- What a request can come to instead of an answer. -/
inductive Failure where
  | fileNotFound (path : String)
  | file (problem : FileProblem)
  /-- A text that is not that of settings: `Settings.ofText?` has none. -/
  | unreadableSettings
  | settings (violation : Settings.Violation)
  | alreadyRunning
  /-- A collector that was stopped cannot be started again. `alreadyRunning` is what one says that has not been. -/
  | startAfterStop
  | collector (error : CollectorError)
  deriving DecidableEq, Repr

/-- What is said of sending to a queue that nobody receives from, or that is closed. -/
def outgoingClosedComplaint : String := "outgoing queue closed"

namespace CollectorError

def message : CollectorError → String
  | setup violation => s!"config error: {violation.setting}: {violation.reason}"
  | bind address reason => s!"bind error: {address.text}: {reason}"
  | outgoingClosed => s!"channel error: {outgoingClosedComplaint}"

end CollectorError

def FileProblem.reason : FileProblem → String
  | isDirectory => "Is a directory (os error 21)"
  | notUtf8 => "stream did not contain valid UTF-8"
  | other reason => reason

namespace Failure

/-- The text about a setting that is wrong, by the setting's path and the reason. -/
def settingMessage (setting reason : String) : String :=
  s!"config error: invalid config value for '{setting}': {reason}"

def message : Failure → String
  | fileNotFound path => s!"config error: config file not found: {path}"
  | file problem => s!"io error: {problem.reason}"
  | unreadableSettings => "config error: failed to parse config: "
  | settings violation => settingMessage violation.setting violation.reason
  | alreadyRunning => "pipeline error: pipeline already running"
  | startAfterStop =>
    "pipeline error: pipeline init failed: flow pipeline cannot be restarted after stop"
  | collector (.setup violation) => settingMessage violation.setting violation.reason
  | collector (.bind address reason) =>
    s!"pipeline error: failed to bind {address.text}: {reason}"
  | collector .outgoingClosed => s!"pipeline error: channel send failed: {outgoingClosedComplaint}"

end Failure

end FlowCollector
