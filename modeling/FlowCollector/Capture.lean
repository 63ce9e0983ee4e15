import FlowCollector.Bytes.Hex
import FlowCollector.Intake

/-!
# Captured datagrams

A datagram as a line of text: the number of its input, when it came in seconds since 1970, where it came
from, and its bytes in hexadecimal, with a blank between each two. Of an empty datagram the last blank is
not left out.
-/

set_option autoImplicit false

namespace FlowCollector

/-- A datagram and the input at which it arrived, as `Collector.arrive` takes them. -/
structure Capture where
  input : Nat
  datagram : Datagram
  deriving DecidableEq, Repr

/-- The captured datagram that a line describes, with or without the line break. The bytes are `Bytes.ofHex?` of the
last word, and the sender is read by `SocketAddress.ofText?`. -/
def Capture.ofLine? (line : String) : Option Capture :=
  match Text.pieces ' ' (line.toList.takeWhile fun c => c != '\r' && c != '\n') with
  | [input, time, sender, payload] => do
    return {
      input := ← Numeral.read? 10 input
      datagram :=
        { sender := ← SocketAddress.ofText? (.ofList sender)
          timeReceived := .ofNat (← Numeral.unsigned? UInt64.size time)
          payload := ← Bytes.ofHexChars? payload } }
  | _ => none

end FlowCollector
