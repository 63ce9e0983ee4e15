import FlowCollector.FlowRecord.Json

/-!
# The record sink

Records are written as JSON, one a line. Lines are gathered in a buffer and written together: when the buffer would
run over, and when no record is there to be gathered. A line that fills the buffer by itself is written directly.

What is written to may be full. It then keeps nothing of the text it was given, and the sink is broken: it writes
nothing more.

A `Writer` is done at once with what it is given. One that is slow keeps the sink from its next record meanwhile, and
that is said where sink and workers take turns, in `Scene`.
-/

set_option autoImplicit false

namespace FlowCollector

/-- What text is written to: what it holds and how much it can hold. How long it takes over a text is no part of
it. -/
structure Writer where
  /-- How many bytes it can hold, if there is a limit. -/
  limit : Option Nat
  content : String
  deriving DecidableEq, Repr

namespace Writer

def start (limit : Option Nat) : Writer := ⟨limit, ""⟩

/-- True when a text can be added, as `write?` asks before it adds one. -/
def hasRoom (writer : Writer) (text : String) : Bool :=
  match writer.limit with
  | none => true
  | some limit => writer.content.utf8ByteSize + text.utf8ByteSize ≤ limit

/-- Adds a text, if there is room for all of it. One that does not fit leaves nothing behind. -/
def write? (writer : Writer) (text : String) : Option Writer :=
  if writer.hasRoom text then some { writer with content := writer.content ++ text } else none

end Writer

/-- Records on their way to a writer: lines that were written, and lines that are gathered. -/
structure Sink where
  writer : Writer
  /-- How many bytes are gathered at most, unless one line by itself is longer. -/
  bufferSize : Nat
  /-- The lines that have been gathered and not been written. -/
  buffer : String
  /-- How many records have been taken by `put`, which is what a daemon tells of at the end. -/
  written : Nat
  /-- True once something could not be written. Nothing is written from then on. -/
  broken : Bool
  deriving DecidableEq, Repr

namespace Sink

def fullComplaint : String := "writer is full"

/-- A sink that has written nothing yet, through a buffer of this size. -/
def start (bufferSize : Nat) (writer : Writer) : Sink := ⟨writer, bufferSize, "", 0, false⟩

/-- Writes a text past the buffer. If the writer has no room for it, the sink is `broken`. -/
def write (sink : Sink) (text : String) : Sink :=
  if sink.broken then sink
  else
    match sink.writer.write? text with
    | some writer => { sink with writer }
    | none => { sink with broken := true }

/-- Writes what has been gathered, and gathers anew. -/
def flush (sink : Sink) : Sink :=
  if sink.buffer.isEmpty then sink else { sink.write sink.buffer with buffer := "" }

/-- Makes room in the buffer for so many bytes, by a `flush` if there is none. -/
def makeRoom (sink : Sink) (size : Nat) : Sink :=
  if sink.bufferSize < sink.buffer.utf8ByteSize + size then sink.flush else sink

/-- Gathers a text behind the others, or writes it if it fills the buffer by itself. -/
def gather (sink : Sink) (text : String) : Sink :=
  let ready := sink.makeRoom text.utf8ByteSize
  if ready.broken then ready
  else if ready.bufferSize ≤ text.utf8ByteSize then ready.write text
  else { ready with buffer := ready.buffer ++ text }

/-- The line of a record: its `FlowRecord.jsonText`, which has no line feed, and one. -/
def line (record : FlowRecord) : String := record.jsonText ++ "\n"

/-- Takes a record and gathers its `line`. The record is counted unless the sink breaks at it. -/
def put (sink : Sink) (record : FlowRecord) : Sink :=
  let gathered := sink.gather (line record)
  if gathered.broken then gathered else { gathered with written := gathered.written + 1 }

/-- Takes records by `put` while it is not broken, and then writes what has been gathered. -/
def putAll (sink : Sink) : List FlowRecord → Sink
  | [] => sink.flush
  | record :: others =>
    let after := sink.put record
    if after.broken then after else putAll after others

end Sink

end FlowCollector
