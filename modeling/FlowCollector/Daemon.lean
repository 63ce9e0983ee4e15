import FlowCollector.Report
import FlowCollector.Settings.File
import FlowCollector.Sink

/-!
# The daemon

A `Daemon` makes a `Collector` of settings, starts it, and writes its records as they come. It takes records whenever
there are any: `Daemon.run` lets the workers and the sink act until all of them wait.

The receiving end of the collector's queue has one owner, which is told by `Output`. The daemon holds it until the
start and gives it to the sink then, and it is never given back: a start that fails loses it, and a sink that breaks
loses it, and from then on nobody can receive.

Here the sink's writer is always ready, as in `Daemon.run`, or else too slow for a stop, as in `Daemon.shutdownLate`.
In between is every other pace, and a `Scene` of Proofs/Daemon has all of them.
-/

set_option autoImplicit false

namespace FlowCollector

/-- Why a daemon does not do what it is asked to. -/
inductive DaemonError where
  | load (failure : Failure)
  | invalidSettings (violation : Settings.Violation)
  | invalidSetup (violation : Setup.Violation)
  | unsupportedEndpoint (path : String)
  | invalidMetricsAddress
  /-- The endpoint for metrics could not be set up. -/
  | metrics (reason : String)
  | build (error : CollectorError)
  | alreadyStarted
  | start (failure : Failure)
  | sinkFull
  | unknownLogFormat (format : String)
  deriving DecidableEq, Repr

def DaemonError.message : DaemonError → String
  | load failure => s!"failed to load config: {failure.message}"
  | invalidSettings violation =>
    s!"config validation failed: {(Failure.settings violation).message}"
  | invalidSetup violation =>
    s!"invalid flow configuration: {(CollectorError.setup violation).message}"
  | unsupportedEndpoint path =>
    s!"unsupported metrics endpoint '{path}': only '{Settings.metricsPath}' is currently supported"
  | invalidMetricsAddress => s!"invalid metrics listen address: {SocketAddress.syntaxComplaint}"
  | metrics reason => s!"failed to install metrics recorder: {reason}"
  | build error => s!"failed to build flow pipeline: {error.message}"
  | alreadyStarted => "orchestrator already started"
  | start failure => s!"failed to start flow pipeline: {failure.message}"
  | sinkFull => s!"record sink failed: {Sink.fullComplaint}"
  | unknownLogFormat format => s!"unknown log format '{format}', expected 'json' or 'pretty'"

/-- Where the receiving end of the collector's queue is, and with it the daemon's output. -/
inductive Output where
  /-- The daemon holds it for `Daemon.start`. -/
  | held
  /-- A start that failed has lost it. The collector could be started again, and the daemon could not. -/
  | lost
  | running (sink : Sink)
  /-- The sink has lost it by a writer that refused, and nobody has been told yet. `Daemon.shutdown` tells it. -/
  | broken (sink : Sink)
  /-- What the sink did has been told by a shutdown, and a later one tells zero. -/
  | finished (sink : Sink)
  deriving DecidableEq, Repr

/-- The writer, once `Daemon.start` has made a sink of it. -/
def Output.writer? : Output → Option Writer
  | held => none
  | lost => none
  | running sink => some sink.writer
  | broken sink => some sink.writer
  | finished sink => some sink.writer

/-- A daemon: what it was made of, its `Collector`, and its `Output`. -/
structure Daemon where
  settings : Settings
  collector : Collector
  output : Output
  deriving DecidableEq

inductive LogFormat where
  | json
  | pretty
  deriving DecidableEq, Repr

/-- The format of a name, or the error that names the two there are. -/
def LogFormat.named : String → Except DaemonError LogFormat
  | "json" => .ok .json
  | "pretty" => .ok .pretty
  | format => .error (.unknownLogFormat format)

/-- Where counts are published. Only `Settings.metricsPath` can be the path, whatever `MetricsSettings.endpoint` asks
for. -/
def MetricsSettings.address (settings : MetricsSettings) : Except DaemonError SocketAddress := do
  require (settings.endpoint == Settings.metricsPath) (.unsupportedEndpoint settings.endpoint)
  match SocketAddress.ofText? s!"{settings.listenAddress}:{settings.port}" with
  | some address => return address
  | none => throw .invalidMetricsAddress

namespace Daemon

/-- How many bytes of lines the sink gathers, as `Sink.bufferSize`. -/
def bufferSize : Nat := 8192

/-- Makes a daemon of settings: `Settings.check`, then `Setup.ofSettings`, then the metrics, then `Collector.build`,
and the first of them that fails is the error. `publish` is what the system answers when counts are to be published at
an address. -/
def build (publish : SocketAddress → Except String Unit) (settings : Settings) :
    Except DaemonError Daemon := do
  settings.check.mapError .invalidSettings
  let setup ← (Setup.ofSettings settings.flow).mapError .invalidSetup
  if settings.metrics.enabled then
    (publish (← settings.metrics.address)).mapError .metrics
  let collector ← (Collector.build setup).mapError .build
  return { settings, collector, output := .held }

/-- Makes a daemon of the settings in a file, as `Settings.load` finds them in an environment. -/
def load (publish : SocketAddress → Except String Unit) (path : String) (content : FileContent)
    (environment : Environment) : Except DaemonError Daemon := do
  build publish (← (Settings.load path content environment).mapError .load)

/-- The sink takes records until none is there, and writes what it has gathered before it waits. The workers run, by
`Collector.settle`, whenever the sink waits. A sink that breaks has lost the receiving end, `Collector.dropReceiver`. -/
def pump (collector : Collector) (sink : Sink) : Collector × Sink :=
  match _received : collector.receive with
  | (.record record, after) =>
    let taken := sink.put record
    if taken.broken then (after.dropReceiver, taken)
    else if after.workshop.outgoing.waiting.isEmpty then
      let flushed := taken.flush
      if flushed.broken then (after.dropReceiver, flushed) else pump after.settle flushed
    else pump after taken
  | (_, after) => (after, sink)
termination_by (collector.workshop.backlog, collector.workshop.pending)
decreasing_by
  · exact Collector.receive_settle_less _received
  · obtain ⟨same, less⟩ := Collector.receive_less _received
    exact Prod.lex_def.2 (.inr ⟨same, less⟩)

/-- Lets the workers and the sink act until all of them wait: `Collector.settle`, and then `pump` if there is a sink. -/
def run (daemon : Daemon) : Daemon :=
  match daemon.output with
  | .running sink =>
    let (collector, sink) := pump daemon.collector.settle sink
    { daemon with collector, output := if sink.broken then .broken sink else .running sink }
  | _ => { daemon with collector := daemon.collector.settle }

/-- Starts the collector, and a sink that writes to a writer. The receiving end is taken from the daemon before it is
known whether `Collector.start` succeeds, so a start that fails has lost it (`Output.lost`). -/
def start (daemon : Daemon) (network : Network) (writer : Writer) :
    Except DaemonError Unit × Daemon :=
  match daemon.output with
  | .held =>
    match daemon.collector.start network with
    | .error failure =>
      (.error (.start failure),
        { daemon with collector := daemon.collector.dropReceiver, output := .lost })
    | .ok collector =>
      (.ok (), run { daemon with collector, output := .running (.start bufferSize writer) })
  | _ => (.error .alreadyStarted, daemon)

/-- A datagram arrives at an input, by `Collector.arrive`, and all that comes of it is written. -/
def arrive (daemon : Daemon) (index : Nat) (datagram : Datagram) : Arrival × Daemon :=
  let (arrival, collector) := daemon.collector.arrive index datagram
  (arrival, run { daemon with collector })

/-- Puts a record into the collector's queue as it is, by `Collector.inject`, and lets it be written. -/
def inject (daemon : Daemon) (record : FlowRecord) : Injection × Daemon :=
  let (injection, collector) := daemon.collector.inject record
  (injection, run { daemon with collector })

/-- Stops the collector and lets the sink finish. Tells how many records were written, once. The writer keeps up: the
sink and the workers come to rest before the stop, so that it finds nothing to lose. For a writer that does not, see
`shutdownLate`. -/
def shutdown (daemon : Daemon) : Except DaemonError Nat × Daemon :=
  let waiting := daemon.run
  let stopped := waiting.collector.stop
  match waiting.output with
  | .running sink =>
    let (collector, sink) := pump stopped sink
    (if sink.broken then .error .sinkFull else .ok sink.written,
      { waiting with collector, output := .finished sink })
  | .broken sink =>
    (.error .sinkFull, { waiting with collector := stopped, output := .finished sink })
  | output => (.ok 0, { waiting with collector := stopped, output })

/-- What has been written so far, by whichever sink there is or was. -/
def written (daemon : Daemon) : String := (daemon.output.writer?.map (·.content)).getD ""

/-- A report of this moment, after so many seconds. -/
def report (daemon : Daemon) (uptimeSecs : UInt64) : Report := daemon.collector.report uptimeSecs

end Daemon

end FlowCollector
