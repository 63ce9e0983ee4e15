import FlowCollector.Proofs.Reader.Taking
import Mathlib.Data.List.Basic

/-!
# Where a reader stands

A reader keeps no position: what is left of its bytes tells it. Here the position is kept as well, beside the bytes. A
call that is served moves it on by what was asked for, and one that fails does not move it, so calls that are served
and calls that fail may follow each other in any order.

The position and the bytes that are left can never come apart, whatever is asked for. That is why the number of bytes
left may be had by taking the position from the size of the buffer: there is always something to take it from.
-/

set_option autoImplicit false

namespace FlowCollector.Reader

/-! ## Calls -/

/-- What is asked of a reader: one of the steps that every other reader is made of, and where it is asked. -/
inductive Call where
  | take (place : Place) (count : Nat)
  | skip (place : Place) (count : Nat)
  | u8 (place : Place)
  | u16 (place : Place)
  | u32 (place : Place)
  deriving DecidableEq, Repr

/-- What a reader gives, in answer to a `Call` that is served. -/
inductive Answer where
  | bytes (value : Bytes)
  | skipped
  | u8 (value : UInt8)
  | u16 (value : UInt16)
  | u32 (value : UInt32)
  deriving DecidableEq, Repr

namespace Call

/-- How many bytes are asked for, which is all that decides whether a call is served. -/
def size : Call → Nat
  | take _ count | skip _ count => count
  | u8 _ => 1
  | u16 _ => 2
  | u32 _ => 4

/-- Where the bytes are asked for. Only the error of a call that is not served tells it. -/
def place : Call → Place
  | take place _ | skip place _ | u8 place | u16 place | u32 place => place

/-- The reader that is called, with its value as an `Answer`. -/
def reader : Call → Reader Answer
  | take place count => return .bytes (← Reader.take place count)
  | skip place count => do
    Reader.skip place count
    return .skipped
  | u8 place => return .u8 (← Reader.u8 place)
  | u16 place => return .u16 (← Reader.u16 place)
  | u32 place => return .u32 (← Reader.u32 place)

/-- What a call makes of the bytes that it consumes. In a number each byte is worth 256 times the one behind it. -/
inductive Consumes : Call → Bytes → Answer → Prop
  | take {place : Place} {count : Nat} {front : Bytes} (width : front.length = count) :
    Consumes (.take place count) front (.bytes front)
  | skip {place : Place} {count : Nat} {front : Bytes} (width : front.length = count) :
    Consumes (.skip place count) front .skipped
  | u8 {place : Place} {byte : UInt8} : Consumes (.u8 place) [byte] (.u8 byte)
  | u16 {place : Place} {first second : UInt8} {value : UInt16}
    (worth : value.toNat = first.toNat * 256 + second.toNat) : Consumes (.u16 place) [first, second] (.u16 value)
  | u32 {place : Place} {first second third fourth : UInt8} {value : UInt32}
    (worth : value.toNat = ((first.toNat * 256 + second.toNat) * 256 + third.toNat) * 256 + fourth.toNat) :
    Consumes (.u32 place) [first, second, third, fourth] (.u32 value)

theorem Consumes.length_eq {call : Call} {front : Bytes} {answer : Answer} (consumes : call.Consumes front answer) :
    front.length = call.size := by
  cases consumes with
  | take width => exact width
  | skip width => exact width
  | u8 => rfl
  | u16 => rfl
  | u32 => rfl

/-- Bytes of the right number are consumed by `reader`, whatever they are and whatever stands behind them. -/
theorem exists_consumes {call : Call} {front : Bytes} (width : front.length = call.size) :
    ∃ answer, call.Consumes front answer ∧ ∀ rest, call.reader (front ++ rest) = .ok (answer, rest) := by
  have below := Bytes.toNat_lt front
  rw [width] at below
  cases call with
  | take place count => exact ⟨.bytes front, .take width, fun rest => bind_ok (take_append width rest)⟩
  | skip place count => exact ⟨.skipped, .skip width, fun rest => bind_ok (skip_append width rest)⟩
  | u8 place =>
    obtain ⟨byte, rfl⟩ := List.length_eq_one_iff.1 width
    exact ⟨.u8 byte, .u8, fun rest => bind_ok (u8_cons place byte rest)⟩
  | u16 place =>
    have worth := UInt16.toNat_ofNat_of_lt' below
    obtain ⟨first, second, rfl⟩ := List.length_eq_two.1 width
    refine ⟨_, .u16 (worth.trans ?_), fun rest => bind_ok (bind_ok (take_append width rest))⟩
    simp [Bytes.toNat]
  | u32 place =>
    have worth := UInt32.toNat_ofNat_of_lt' below
    obtain ⟨first, others, rfl⟩ := List.exists_cons_of_length_eq_add_one width
    obtain ⟨second, third, fourth, rfl⟩ := List.length_eq_three.1 (Nat.succ.inj width)
    refine ⟨_, .u32 (worth.trans ?_), fun rest => bind_ok (bind_ok (take_append width rest))⟩
    simp [Bytes.toNat]

theorem reader_short (call : Call) {bytes : Bytes} (short : bytes.length < call.size) :
    call.reader bytes = .error (.truncated call.place call.size bytes.length) := by
  have missing (place : Place) : Reader.take place call.size bytes = .error (.truncated place call.size bytes.length) :=
    take_short place short
  cases call with
  | take place count => exact bind_error (missing place)
  | skip place count => exact bind_error (bind_error (missing place))
  | u8 place => exact bind_error (bind_error (missing place))
  | u16 place => exact bind_error (bind_error (missing place))
  | u32 place => exact bind_error (bind_error (missing place))

end Call

/-! ## Calls one after another -/

/-- A reader in the midst of its calls. `Within` says how its two parts belong together. -/
structure Cursor where
  /-- How many bytes it has gone past, which is counted and not told from what is left. -/
  position : Nat
  rest : Bytes
  deriving DecidableEq, Repr

namespace Cursor

def start (buffer : Bytes) : Cursor := ⟨0, buffer⟩

/-- What a call gives, and where it leaves the reader: further by `Call.size` if it is served, and in its place if it
fails. -/
def call (cursor : Cursor) (call : Call) : Except DecodeError Answer × Cursor :=
  match call.reader cursor.rest with
  | .ok (answer, rest) => (.ok answer, ⟨cursor.position + call.size, rest⟩)
  | .error error => (.error error, cursor)

/-- What becomes of calls one after another, and where they leave the reader. A `call` that fails does not end
them. -/
def calls (cursor : Cursor) : List Call → List (Call × Except DecodeError Answer) × Cursor
  | [] => ([], cursor)
  | call :: others =>
    let (result, cursor) := cursor.call call
    let (replies, cursor) := cursor.calls others
    ((call, result) :: replies, cursor)

/-- The calls that were served, with their answers, in their order. -/
def served (replies : List (Call × Except DecodeError Answer)) : List (Call × Answer) :=
  replies.filterMap fun reply => reply.2.toOption.map (reply.1, ·)

variable {cursor : Cursor} {buffer : Bytes}

/-- A call consumes what stands next, or there is not enough of it and the reader stays. -/
theorem call_cases (cursor : Cursor) (call : Call) :
    (∃ front answer rest, call.Consumes front answer ∧ cursor.rest = front ++ rest
        ∧ cursor.call call = (.ok answer, ⟨cursor.position + call.size, rest⟩))
      ∨ (cursor.rest.length < call.size
        ∧ cursor.call call = (.error (.truncated call.place call.size cursor.rest.length), cursor)) := by
  by_cases enough : call.size ≤ cursor.rest.length
  · obtain ⟨answer, consumes, read⟩ := Call.exists_consumes (List.length_take_of_le enough)
    have next : cursor.rest.take call.size ++ cursor.rest.drop call.size = cursor.rest := List.take_append_drop ..
    have read := read (cursor.rest.drop call.size)
    rw [next] at read
    exact .inl ⟨_, answer, _, consumes, next.symm, by rw [Cursor.call, read]⟩
  · have short := Nat.lt_of_not_le enough
    exact .inr ⟨short, by rw [Cursor.call, call.reader_short short]⟩

theorem exists_ok_call_iff (cursor : Cursor) (call : Call) :
    (∃ answer, (cursor.call call).1 = .ok answer) ↔ call.size ≤ cursor.rest.length := by
  obtain ⟨front, answer, rest, consumes, next, served⟩ | ⟨short, failed⟩ := cursor.call_cases call
  · have enough : call.size ≤ cursor.rest.length := by
      rw [next, List.length_append, consumes.length_eq]
      exact Nat.le_add_right _ _
    exact ⟨fun _ => enough, fun _ => ⟨answer, congrArg Prod.fst served⟩⟩
  · refine ⟨?_, fun enough => absurd short (Nat.not_lt.2 enough)⟩
    rintro ⟨answer, given⟩
    rw [failed] at given
    cases given

theorem call_eq_error_iff (cursor : Cursor) (call : Call) :
    cursor.call call = (.error (.truncated call.place call.size cursor.rest.length), cursor)
      ↔ cursor.rest.length < call.size := by
  constructor
  · intro failed
    refine Nat.lt_of_not_le fun enough => ?_
    obtain ⟨answer, given⟩ := (cursor.exists_ok_call_iff call).2 enough
    rw [failed] at given
    cases given
  · intro short
    obtain ⟨front, answer, rest, consumes, next, -⟩ | ⟨-, failed⟩ := cursor.call_cases call
    · rw [next, List.length_append, consumes.length_eq] at short
      exact absurd short (Nat.not_lt.2 (Nat.le_add_right _ _))
    · exact failed

/-- The reader stands in the buffer where its position tells, and the bytes that are left are those behind it. -/
structure Within (buffer : Bytes) (cursor : Cursor) : Prop where
  position_le : cursor.position ≤ buffer.length
  rest_eq : cursor.rest = buffer.drop cursor.position

namespace Within

theorem start (buffer : Bytes) : Within buffer (Cursor.start buffer) := ⟨Nat.zero_le _, rfl⟩

theorem length_rest (within : Within buffer cursor) : cursor.rest.length = buffer.length - cursor.position := by
  rw [within.rest_eq, List.length_drop]

theorem call (within : Within buffer cursor) (call : Call) : Within buffer (cursor.call call).2 := by
  obtain ⟨front, answer, rest, consumes, next, served⟩ | ⟨-, failed⟩ := cursor.call_cases call
  · have inside := within.position_le
    have left := within.length_rest
    rw [next, List.length_append, consumes.length_eq] at left
    rw [served]
    refine ⟨?_, ?_⟩
    · show cursor.position + call.size ≤ buffer.length
      omega
    · show rest = buffer.drop (cursor.position + call.size)
      rw [← List.drop_drop, ← within.rest_eq, next, ← consumes.length_eq, List.drop_left]
  · rwa [failed]

theorem calls (within : Within buffer cursor) (calls : List Call) : Within buffer (cursor.calls calls).2 := by
  induction calls generalizing cursor with
  | nil => exact within
  | cons call others ih => exact ih (within.call call)

end Within

/-- Calls that are served consume the bytes piece by piece. Those that fail in between consume nothing. -/
theorem exists_consumed (cursor : Cursor) (calls : List Call) :
    ∃ fronts,
      List.Forall₂ (fun reply front => reply.1.Consumes front reply.2) (served (cursor.calls calls).1) fronts
        ∧ fronts.flatten ++ (cursor.calls calls).2.rest = cursor.rest := by
  induction calls generalizing cursor with
  | nil => exact ⟨[], .nil, rfl⟩
  | cons call others ih =>
    rw [Cursor.calls]
    obtain ⟨front, answer, rest, consumes, next, served⟩ | ⟨-, failed⟩ := cursor.call_cases call
    · obtain ⟨fronts, behind, same⟩ := ih ⟨cursor.position + call.size, rest⟩
      rw [served]
      refine ⟨front :: fronts, .cons consumes behind, ?_⟩
      rw [List.flatten_cons, List.append_assoc, next]
      exact congrArg (front ++ ·) same
    · rw [failed]
      exact ih cursor

end Cursor

/-- Whatever `calls` have been made of a reader, it stands inside its buffer, and what is left is what stands there
behind its position. So far the calls that were `served` have consumed one piece of the buffer after the other, each
as much as its `Call.size` and as its answer tells (`Call.Consumes`), and nothing lies between the pieces or in front
of what is left. The next call is served exactly if it asks for no more than is left. Otherwise its error tells how
much that is, and nothing has happened. -/
theorem calls_consume_buffer (buffer : Bytes) (calls : List Call) :
    let replies := ((Cursor.start buffer).calls calls).1
    let cursor := ((Cursor.start buffer).calls calls).2
    let left := buffer.length - cursor.position
    cursor.position ≤ buffer.length
      ∧ cursor.rest = buffer.drop cursor.position
      ∧ remaining cursor.rest = .ok (left, cursor.rest)
      ∧ (∃ fronts,
          List.Forall₂ (fun reply front => reply.1.Consumes front reply.2) (Cursor.served replies) fronts
            ∧ fronts.flatten ++ cursor.rest = buffer)
      ∧ ∀ call : Call,
          ((∃ answer, (cursor.call call).1 = .ok answer) ↔ call.size ≤ left)
            ∧ (cursor.call call = (.error (.truncated call.place call.size left), cursor) ↔ left < call.size) := by
  intro replies cursor left
  have within : cursor.Within buffer := (Cursor.Within.start buffer).calls calls
  have size : cursor.rest.length = left := within.length_rest
  refine ⟨within.position_le, within.rest_eq, ?_, (Cursor.start buffer).exists_consumed calls, fun call => ?_⟩
  · rw [remaining_apply, size]
  · rw [← size]
    exact ⟨cursor.exists_ok_call_iff call, cursor.call_eq_error_iff call⟩

/-- Two calls that ask for too much stand between calls that are served, and do them no harm. -/
example :
    (Cursor.start [0x00, 0x09, 0xde, 0xad, 0xbe, 0xef, 0x07]).calls
        [.u16 .header, .take .set 4294967295, .u32 .header, .u8 .header, .skip .set 1]
      = ([(.u16 .header, .ok (.u16 9)), (.take .set 4294967295, .error (.truncated .set 4294967295 5)),
          (.u32 .header, .ok (.u32 0xdeadbeef)), (.u8 .header, .ok (.u8 7)),
          (.skip .set 1, .error (.truncated .set 1 0))], ⟨7, []⟩) := by
  decide +kernel

end FlowCollector.Reader
