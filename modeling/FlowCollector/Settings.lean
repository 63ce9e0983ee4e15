/-!
# Settings

What a settings file may say, with a default for everything. Settings are kept as they were written: a
protocol is a name here and an address a text, which may be wrong. Checking them is `Settings.check`, and
making a collector of them needs a `Setup`, where neither can be wrong any more.
-/

set_option autoImplicit false

namespace FlowCollector

/-- The log: its level and its format, which `Settings.check` has lists of. -/
structure GeneralSettings where
  logLevel : String := "info"
  logFormat : String := "json"
  deriving DecidableEq, Repr

/-- One input: what it decodes and where it listens, both as texts. `InputSetup.ofSettings` reads them. -/
structure InputSettings where
  decoder : String := "netflow"
  listen : String := "0.0.0.0:2055"
  /-- How many workers read from the socket. They are no part of the model of a running collector, where each datagram
  comes to `Collector.arrive` one by one. -/
  workers : UInt64 := 1
  /-- How many datagrams may wait to be decoded, the capacity of an `Intake`. -/
  queueSize : UInt64 := 100000
  decodeWorkers : UInt64 := 1
  deriving DecidableEq, Repr

/-- The collector: its inputs and what they share. `Setup.ofSettings` reads these. -/
structure FlowSettings where
  inputs : List InputSettings :=
    [{ decoder := "netflow", listen := "0.0.0.0:2055" },
      { decoder := "sflow", listen := "0.0.0.0:6343" }]
  /-- How many records may wait to be consumed, of all inputs together: the capacity of `Outgoing`. -/
  outgoingQueueSize : UInt64 := 10000
  /-- How long stopping waits for the workers. `Collector.giveUp` is what happens when that has elapsed. -/
  drainTimeoutSecs : UInt64 := 5
  deriving DecidableEq, Repr

/-- The endpoint where counts are published, whether it is wanted at all, and under which path. -/
structure MetricsSettings where
  enabled : Bool := false
  listenAddress : String := "127.0.0.1"
  port : UInt16 := 9100
  endpoint : String := "/metrics"
  deriving DecidableEq, Repr

/-- All settings, each with a default, so a file may leave out what it likes. -/
structure Settings where
  general : GeneralSettings := {}
  flow : FlowSettings := {}
  metrics : MetricsSettings := {}
  deriving DecidableEq, Repr

end FlowCollector
