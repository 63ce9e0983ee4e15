import FlowCollector.DecodeError

/-!
# Reading bytes in order

A `Reader` takes what it needs from the front of a run of bytes and returns the rest. The rest is the
position: nothing is indexed, so nothing can be read twice or past the end, and a reader that fails
leaves its caller with the bytes it was given.

Numbers that come from the wire never drive a loop by themselves. `Reader.many` goes on while enough
bytes remain, and `Reader.upTo` and `Reader.times` are handed a count but stop at the first thing they
cannot read, so the bytes present bound them whatever the count says.
-/

set_option autoImplicit false

namespace FlowCollector

/-- Takes a value from the front of a run of bytes, or says what is wrong. A reader that fails gives its bytes back to
nobody: the caller still has them. -/
abbrev Reader := StateT Bytes (Except DecodeError)

namespace Reader

/-- The next `count` bytes. Fails, and takes nothing, when fewer remain; the error says how many do. -/
def take (place : Place) (count : Nat) : Reader Bytes := fun bytes =>
  if count ≤ bytes.length then .ok (bytes.take count, bytes.drop count)
  else .error (.truncated place count bytes.length)

/-- Leaves out the next `count` bytes, and fails as `take` does. -/
def skip (place : Place) (count : Nat) : Reader Unit := do
  let _ ← take place count
  return ()

/-- How many bytes are left, without taking any. -/
def remaining : Reader Nat := fun bytes => .ok (bytes.length, bytes)

/-- Fails with an error of the caller's own, whatever bytes there are. -/
def fail {α : Type} (error : DecodeError) : Reader α := fun _ => .error error

/-- A number of one byte. -/
def u8 (place : Place) : Reader UInt8 := do
  return .ofNat (← take place 1).toNat

/-- A number of two bytes, the higher one first, of the bytes that `take` gives. -/
def u16 (place : Place) : Reader UInt16 := do
  return .ofNat (← take place 2).toNat

/-- A number of four bytes, the highest one first, of the bytes that `take` gives. -/
def u32 (place : Place) : Reader UInt32 := do
  return .ofNat (← take place 4).toNat

/-- Reads a value exactly `count` times. The first failure is the whole failure, and the values before it are lost;
`upTo` keeps them. -/
def times {α : Type} : Nat → Reader α → Reader (List α)
  | 0, _ => return []
  | count + 1, item => do
    let first ← item
    let others ← times count item
    return first :: others

/-- Reads at most `count` values, stopping at the first that cannot be read: the values before it, and its error. What
is behind them is not told. -/
def upTo {α : Type} : Nat → Reader α → Bytes → List α × Option DecodeError
  | 0, _, _ => ([], none)
  | count + 1, item, bytes =>
    match item bytes with
    | .error error => ([], some error)
    | .ok (first, rest) =>
      let (others, ending) := upTo count item rest
      (first :: others, ending)

/-- Reads values while at least `least` bytes remain, stopping at the first that cannot be read: the values before it,
and its error. Fewer than `least` bytes at the end are padding. A value that took no bytes would be read for ever, so
such a value is the last. -/
def many {α : Type} (least : Nat) (item : Reader α) (bytes : Bytes) :
    List α × Option DecodeError :=
  if bytes.length < least then ([], none)
  else
    match item bytes with
    | .error error => ([], some error)
    | .ok (first, rest) =>
      if rest.length < bytes.length then
        let (others, ending) := many least item rest
        (first :: others, ending)
      else ([first], none)
termination_by bytes.length

end Reader

end FlowCollector
