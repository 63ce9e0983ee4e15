import FlowCollector.Proofs.FlowRecord.Json
import FlowCollector.Sink

/-!
# What a sink writes

A sink may write at once, or later, or some of its lines together. `Sink.Carries` says what does not hang on that: what
has been written and what is still gathered are, one behind the other, the lines of the records that were taken. It is
kept by everything a sink does, as long as the writer takes all that it is given.

Cut at its line feeds, such a text is one line a record, and each of them is read back as its record.
-/

set_option autoImplicit false

namespace FlowCollector

namespace Sink

/-- The lines of some records, one behind the other, as `line` writes each. -/
def lines : List FlowRecord → String
  | [] => ""
  | record :: others => line record ++ lines others

theorem lines_append (records more : List FlowRecord) : lines (records ++ more) = lines records ++ lines more := by
  induction records with
  | nil => exact (String.empty_append).symm
  | cons record others ih => rw [List.cons_append, lines, ih, lines, String.append_assoc]

theorem lines_singleton (record : FlowRecord) : lines [record] = line record := String.append_empty

/-- Between the line feeds stand the texts of the records, and nothing stands behind the last one, which has a line
feed as well. -/
theorem pieces_lines (records : List FlowRecord) :
    Text.pieces '\n' (lines records).toList = records.map (fun record => record.jsonText.toList) ++ [[]] := by
  induction records with
  | nil => rfl
  | cons record others ih =>
    have cut := Text.pieces_append record.newline_not_mem_jsonText (lines others).toList
    rw [ih] at cut
    simpa [lines, line, String.toList_append] using cut

/-! ## Whatever is written when -/

/-- A sink has been given a text and has counted so many records, and nothing has been lost: the writer has the front
of the text and the buffer the rest. -/
structure Carries (sink : Sink) (text : String) (count : Nat) : Prop where
  unlimited : sink.writer.limit = none
  unbroken : sink.broken = false
  content : sink.writer.content ++ sink.buffer = text
  written : sink.written = count

theorem carries_start (bufferSize : Nat) {writer : Writer} (unlimited : writer.limit = none) :
    (start bufferSize writer).Carries writer.content 0 :=
  ⟨unlimited, rfl, String.append_empty, rfl⟩

namespace Carries

variable {sink : Sink} {text : String} {count : Nat}

theorem write_eq (h : sink.Carries text count) (more : String) :
    sink.write more = { sink with writer := { sink.writer with content := sink.writer.content ++ more } } := by
  simp [write, h.unbroken, Writer.write?, Writer.hasRoom, h.unlimited]

theorem flush (h : sink.Carries text count) : sink.flush.Carries text count ∧ sink.flush.buffer = "" := by
  unfold Sink.flush
  split
  · rename_i empty
    exact ⟨h, String.isEmpty_iff.1 empty⟩
  · rw [h.write_eq]
    refine ⟨⟨h.unlimited, h.unbroken, ?_, h.written⟩, rfl⟩
    exact String.append_empty.trans h.content

/-- Room is made where a text does not fit behind what is gathered, and that loses nothing. One that fills the buffer
by itself then has nothing gathered in front of it. -/
theorem makeRoom (h : sink.Carries text count) (size : Nat) :
    (sink.makeRoom size).Carries text count
      ∧ ((sink.makeRoom size).bufferSize ≤ size → (sink.makeRoom size).buffer = "") := by
  unfold Sink.makeRoom
  split
  · obtain ⟨kept, emptied⟩ := h.flush
    exact ⟨kept, fun _ => emptied⟩
  · rename_i fits
    refine ⟨h, fun fills => ?_⟩
    have nothing : sink.buffer.utf8ByteSize = 0 := by omega
    exact String.utf8ByteSize_eq_zero_iff.1 nothing

theorem gather (h : sink.Carries text count) (more : String) :
    (sink.gather more).Carries (text ++ more) count := by
  obtain ⟨ready, emptied⟩ := h.makeRoom more.utf8ByteSize
  unfold Sink.gather
  generalize sink.makeRoom more.utf8ByteSize = made at ready emptied ⊢
  dsimp only
  rw [if_neg (by simp [ready.unbroken])]
  split
  · rename_i fills
    rw [ready.write_eq]
    refine ⟨ready.unlimited, ready.unbroken, ?_, ready.written⟩
    show made.writer.content ++ more ++ made.buffer = text ++ more
    rw [← ready.content, emptied fills, String.append_empty, String.append_empty]
  · refine ⟨ready.unlimited, ready.unbroken, ?_, ready.written⟩
    show made.writer.content ++ (made.buffer ++ more) = text ++ more
    rw [← ready.content, String.append_assoc]

theorem put (h : sink.Carries text count) (record : FlowRecord) :
    (sink.put record).Carries (text ++ line record) (count + 1) := by
  obtain ⟨unlimited, unbroken, content, written⟩ := h.gather (line record)
  unfold Sink.put
  generalize sink.gather (line record) = gathered at unlimited unbroken content written ⊢
  dsimp only
  rw [if_neg (by simp [unbroken])]
  exact ⟨unlimited, unbroken, content, congrArg (· + 1) written⟩

theorem putAll (h : sink.Carries text count) (records : List FlowRecord) :
    (sink.putAll records).Carries (text ++ lines records) (count + records.length)
      ∧ (sink.putAll records).buffer = "" := by
  induction records generalizing sink text count with
  | nil =>
    rw [lines, String.append_empty]
    exact h.flush
  | cons record others ih =>
    have taken := h.put record
    rw [Sink.putAll, if_neg (by simp [taken.unbroken]), lines, ← String.append_assoc, List.length_cons,
      Nat.add_comm others.length, ← Nat.add_assoc]
    exact ih taken

/-- Once nothing is gathered, all has been written: the writer's content is the text that the sink `Carries`. -/
theorem content_eq (h : sink.Carries text count) (flushed : sink.buffer = "") : sink.writer.content = text := by
  rw [← h.content, flushed, String.append_empty]

end Carries

end Sink

/-- The text of every record is read back by `FlowRecord.ofJsonText?` as the record. What `Sink.putAll` writes of a
list of records, through a buffer of any size, is one line for each, in order, that is read back as it. What is read
from any text can be written and is then read back too. -/
theorem records_read_back :
    (∀ record : FlowRecord, FlowRecord.ofJsonText? record.jsonText = some record)
      ∧ (∀ (bufferSize : Nat) (records : List FlowRecord),
        let sink := (Sink.start bufferSize (.start none)).putAll records
        let lines := Text.pieces '\n' sink.writer.content.toList
        sink.broken = false ∧ sink.written = records.length
          ∧ lines = records.map (fun record => record.jsonText.toList) ++ [[]]
          ∧ lines.dropLast.map (fun line => FlowRecord.ofJsonText? (String.ofList line ++ "\n"))
            = records.map some)
      ∧ ∀ text record, FlowRecord.ofJsonText? text = some record →
        FlowRecord.ofJsonText? record.jsonText = some record := by
  refine ⟨FlowRecord.ofJsonText?_jsonText, ?_, fun _ record _ => record.ofJsonText?_jsonText⟩
  intro bufferSize records sink lines
  have begun : (Sink.start bufferSize (.start none)).Carries "" 0 := Sink.carries_start bufferSize rfl
  obtain ⟨carries, flushed⟩ := begun.putAll records
  have content : sink.writer.content = Sink.lines records :=
    (carries.content_eq flushed).trans String.empty_append
  have cut : lines = records.map (fun record => record.jsonText.toList) ++ [[]] := by
    show Text.pieces '\n' sink.writer.content.toList = _
    rw [content, Sink.pieces_lines]
  refine ⟨carries.unbroken, carries.written.trans (Nat.zero_add _), cut, ?_⟩
  rw [cut, List.dropLast_concat, List.map_map]
  apply List.map_congr_left
  intro record _
  show FlowRecord.ofJsonText? (String.ofList record.jsonText.toList ++ "\n") = some record
  rw [String.ofList_toList]
  exact record.ofJsonText?_append (List.all_eq_true.1 (by decide))

/-- A name with a quote, a backslash, a line feed, a control character and a letter outside ASCII, the largest counter,
and a mapped address, written twice through a buffer that is smaller than a line. The text with blanks behind it is
accepted as well. -/
theorem records_read_back_escaped :
    let mapped : IpAddress := .v6 ⟨[0, 0, 0, 0, 0, 0xffff, 0xc000, 0x0201], rfl⟩
    let record : FlowRecord := { FlowRecord.blank mapped 60 with
      exporterName := "\"\\\n\u0001é", bytes := 18446744073709551615, nextHop := some mapped }
    let text := record.jsonText ++ " \n"
    let sink := (Sink.start 16 (.start none)).putAll [record, record]
    FlowRecord.ofJsonText? text = some record ∧ text ≠ record.jsonText
      ∧ FlowRecord.ofJsonText? record.jsonText = some record
      ∧ sink.written = 2 ∧ (Text.pieces '\n' sink.writer.content.toList).length = 3 := by
  intro mapped record text sink
  have accepted : FlowRecord.ofJsonText? text = some record := record.ofJsonText?_append (List.all_eq_true.1 (by decide))
  have longer : text ≠ record.jsonText := by
    intro same
    have sizes := congrArg (fun text => text.toList.length) same
    simp [text, String.toList_append] at sizes
  -- What is in the record does not matter for what follows.
  clear_value text record
  obtain ⟨-, written, again⟩ := records_read_back
  obtain ⟨-, count, cut, -⟩ := written 16 [record, record]
  refine ⟨accepted, longer, again text record accepted, count, ?_⟩
  rw [cut]
  rfl

end FlowCollector
