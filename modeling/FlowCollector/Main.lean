import FlowCollector.Capture
import FlowCollector.CommandLine
import FlowCollector.Daemon

/-!
# The program

Reads settings, then datagrams from standard input, one `Capture` a line, and writes their records to standard output.
All that is decided is decided elsewhere: here are only the file, the environment and the two streams.
-/

set_option autoImplicit false

namespace FlowCollector.Program

/-- What the system gives for a path, as `Settings.load` wants it. -/
def readContent (path : String) : IO FileContent := do
  try
    return .ofBytes (← IO.FS.readBinFile path)
  catch
    | .noFileOrDirectory .. => return .missing
    | error => return .unreadable (.other (toString error))

/-- The variables that settings are read from, which are `Environment.names`. -/
def readEnvironment : IO Environment := do
  let assignments ← Environment.names.filterMapM fun name => do
    return (← IO.getEnv name).map (name, ·)
  return .ofList assignments

def complain (message : String) : IO Unit := IO.eprintln s!"Error: {message}"

/-- Writes what the daemon has written (`Daemon.written`) beyond a number of bytes, and returns the new number. -/
def forward (daemon : Daemon) (done : Nat) : IO Nat := do
  let bytes := daemon.written.toUTF8
  let output ← IO.getStdout
  output.write (bytes.extract done bytes.size)
  output.flush
  return bytes.size

/-- Lets datagrams arrive by `Daemon.arrive` until the input ends, and shuts down. -/
partial def serve (input : IO.FS.Stream) (daemon : Daemon) (done : Nat) : IO UInt32 := do
  let line ← input.getLine
  if line.isEmpty then
    let (result, daemon) := daemon.shutdown
    let _ ← forward daemon done
    match result with
    | .ok _ => return 0
    | .error error =>
      complain error.message
      return 1
  else
    match Capture.ofLine? line with
    | none =>
      IO.eprintln "not a captured datagram"
      serve input daemon done
    | some capture =>
      let (_, daemon) := daemon.arrive capture.input capture.datagram
      serve input daemon (← forward daemon done)

/-- Runs a daemon of settings. Every address that is asked for is given, since nothing is bound. -/
def run (settings : Settings) : IO UInt32 := do
  let publish : SocketAddress → Except String Unit := fun _ => .error "not supported"
  let network : Network := fun _ address => .ok address
  let started : Except DaemonError Daemon := do
    let _ ← LogFormat.named settings.general.logFormat
    let daemon ← Daemon.build publish settings
    let (result, daemon) := daemon.start network (.start none)
    result
    return daemon
  match started with
  | .error error =>
    complain error.message
    return 1
  | .ok daemon => serve (← IO.getStdin) daemon 0

/-- Runs what a command line asks for, or checks the settings and says that they are fine. -/
def start (line : CommandLine) : IO UInt32 := do
  match Settings.load line.path (← readContent line.path) (← readEnvironment) with
  | .error failure =>
    complain s!"failed to load config {line.path}: {failure.message}"
    return 1
  | .ok settings =>
    let settings := line.override settings
    if line.validate then
      match settings.check with
      | .error violation =>
        complain (DaemonError.invalidSettings violation).message
        return 1
      | .ok _ =>
        IO.println s!"configuration OK: {line.path}"
        return 0
    else run settings

end FlowCollector.Program

open FlowCollector in
def main (words : List String) : IO UInt32 := do
  match CommandLine.read words with
  | .ok line => Program.start line
  | .error .help =>
    IO.println CommandLine.usage
    return 0
  | .error .version =>
    IO.println "ironflow-daemon 0.1.0"
    return 0
  | .error exit =>
    IO.eprintln exit.complaint
    return 2
