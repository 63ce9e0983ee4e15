import FlowCollector.Setup

/-!
# Setups in the making

A draft starts without inputs and with sizes that will do, and takes inputs and sizes in any order. It is checked once,
when it is built: a draft that is wrong on the way is not refused for it.
-/

set_option autoImplicit false

namespace FlowCollector.Setup

/-- A setup that is not finished. It may be wrong, and `build` is where that is told. -/
structure Draft where
  setup : Setup
  deriving DecidableEq, Repr

namespace Draft

/-- Nothing to listen to yet, with the sizes that `FlowSettings` has for defaults. -/
def blank : Draft := ⟨{ inputs := [], outgoingQueueSize := 10000, drainTimeoutSecs := 5 }⟩

/-- One more input, behind those there are. -/
def withInput (draft : Draft) (input : InputSetup) : Draft :=
  ⟨{ draft.setup with inputs := draft.setup.inputs ++ [input] }⟩

/-- These inputs instead of those there were, whether by `withInput` or by `withInputs`. -/
def withInputs (draft : Draft) (inputs : List InputSetup) : Draft := ⟨{ draft.setup with inputs }⟩

/-- Another size of the outgoing queue. The last one given counts. -/
def withOutgoingQueueSize (draft : Draft) (size : UInt64) : Draft :=
  ⟨{ draft.setup with outgoingQueueSize := size }⟩

/-- Another time to wait for the workers. The last one given counts. -/
def withDrainTimeoutSecs (draft : Draft) (seconds : UInt64) : Draft :=
  ⟨{ draft.setup with drainTimeoutSecs := seconds }⟩

/-- The setup, if it passes `Setup.check`. -/
def build (draft : Draft) : Except Violation Setup := do
  draft.setup.check
  return draft.setup

end Draft

end FlowCollector.Setup
