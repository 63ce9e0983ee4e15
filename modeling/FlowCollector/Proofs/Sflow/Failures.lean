import FlowCollector.Proofs.Evolution
import FlowCollector.Proofs.Sflow.Samples
import FlowCollector.Proofs.Sflow.Records

/-!
# What goes wrong in an sFlow datagram

Reading can fail at every level of a datagram: in its header, in the row of its samples, in the header of a sample, in
the row of its records and inside a record. `FlowSample.failures` and `RawSample.failures` are what fails inside a
sample, as the readers say it. Mostly they say that bytes are missing, and that is not what the datagram is told to
have: a part whose own length was declared is told to have the wrong length.

So one error at most says that the datagram is cut off, or that its version is none that is decoded, and nothing comes
behind it.
-/

set_option autoImplicit false

namespace FlowCollector.Sflow

/-! ## Inside a sample -/

/-- What a record that was cut out cannot be read for by `SampleRecord.read`, if it cannot. -/
def Block.failure? (block : Block) : Option DecodeError :=
  match (SampleRecord.read block.format).run block.body with
  | .ok _ => none
  | .error error => some error

/-- What fails when a flow sample is read by `FlowSample.decode`: each failure, and the part whose length is to blame
for it. The records come in their order, and what keeps the row of records from being cut comes behind them. -/
def FlowSample.failures (form : Form) (body : Bytes) : List (Place × DecodeError) :=
  match (SampleHeader.read form).run body with
  | .error error => [(.flowSample, error)]
  | .ok (header, rest) =>
    let (blocks, ending) := Reader.upTo header.recordCount.toNat Block.read rest
    (blocks.filterMap Block.failure?).map (Prod.mk .flowRecord) ++ ending.toList.map (Prod.mk .flowSample)

/-- What fails inside a sample. One that declares too much is itself too short, and of one that is `framed` only flow
samples are read. -/
def RawSample.failures : RawSample → List (Place × DecodeError)
  | .framed format body =>
    match form? format with
    | some form => FlowSample.failures form body
    | none => []
  | .overlong declared available => [(.sample, .truncated .sample declared available)]

/-- What the datagram is told of a failure in a part of it: a wrong length of that part, by `asMalformed`. -/
def reported (failure : Place × DecodeError) : DecodeError := failure.2.asMalformed failure.1

namespace FlowSample

variable (form : Form) (exporter : IpAddress) (timeReceived : UInt64) (body : Bytes)

theorem errors_useBlocks (record : FlowRecord) (blocks : List Block) :
    (useBlocks record blocks).2 = ((blocks.filterMap Block.failure?).map (Prod.mk .flowRecord)).map reported := by
  induction blocks generalizing record with
  | nil => rfl
  | cons block others ih =>
    rw [useBlocks, List.filterMap_cons]
    dsimp only
    rw [ih]
    unfold useBlock Block.failure?
    cases (SampleRecord.read block.format).run block.body <;> rfl

/-- A flow sample is told of by its `failures` and by nothing else, whether the whole of it is lost or not. -/
theorem errors_toDecoded :
    (decode form exporter timeReceived body).toDecoded.errors = (failures form body).map reported := by
  unfold decode failures
  cases (SampleHeader.read form).run body with
  | error error => rfl
  | ok found =>
    obtain ⟨header, rest⟩ := found
    have told := errors_useBlocks (header.blank exporter timeReceived)
      (Reader.upTo header.recordCount.toNat Block.read rest).1
    dsimp only
    rw [List.map_append, ← told]
    cases (Reader.upTo header.recordCount.toNat Block.read rest).2 with
    | some error => rfl
    | none =>
      dsimp only
      split <;> exact (List.append_nil _).symm

theorem reason_of_mem_failures {failure : Place × DecodeError} (mem : failure ∈ failures form body) :
    (reported failure).reason = .malformedLength := by
  -- What is read of the sample itself fails for want of bytes, and that is then a wrong length.
  have ofSample {error : DecodeError} (short : ∃ place needed available, error = .truncated place needed available) :
      (reported (.flowSample, error)).reason = .malformedLength := by
    obtain ⟨place, needed, available, rfl⟩ := short
    rfl
  unfold failures at mem
  cases header : (SampleHeader.read form).run body with
  | error error =>
    rw [header, List.mem_singleton] at mem
    rw [mem]
    exact ofSample (failsShort_header form _ _ header)
  | ok found =>
    obtain ⟨header, rest⟩ := found
    simp only [header, List.mem_append, List.mem_map, List.mem_filterMap, Option.mem_toList] at mem
    rcases mem with ⟨error, ⟨block, -, failed⟩, rfl⟩ | ⟨error, ended, rfl⟩
    · unfold Block.failure? at failed
      split at failed
      · cases failed
      · rename_i own unread
        obtain rfl := Option.some.inj failed
        obtain ⟨place, declared, available, malformed⟩ := SampleRecord.failsOn_read _ _ _ unread
        exact congrArg DecodeError.reason malformed
    · exact ofSample (failsShort_block.upTo _ _ ended)

end FlowSample

namespace RawSample

theorem errors_decode (exporter : IpAddress) (timeReceived : UInt64) (sample : RawSample) :
    (sample.decode exporter timeReceived).errors = sample.failures.map reported := by
  cases sample with
  | framed format body =>
    simp only [decode, failures]
    cases form? format with
    | none => rfl
    | some form => exact FlowSample.errors_toDecoded form exporter timeReceived body
  | overlong declared available => rfl

theorem reason_of_mem_failures {sample : RawSample} {failure : Place × DecodeError} (mem : failure ∈ sample.failures) :
    (reported failure).reason = .malformedLength := by
  cases sample with
  | framed format body =>
    simp only [failures] at mem
    cases known : form? format with
    | none =>
      rw [known] at mem
      cases mem
    | some form =>
      rw [known] at mem
      exact FlowSample.reason_of_mem_failures form body mem
  | overlong declared available =>
    rw [List.mem_singleton.1 mem]
    rfl

end RawSample

/-! ## The row of samples -/

/-- The samples that a datagram falls into, and what ends them. Without a header there are none, and its error ends
them. -/
def row (payload : Bytes) : List RawSample × Option DecodeError :=
  match readHeader.run payload with
  | .error error => ([], some error)
  | .ok (count, rest) => Reader.upTo count.toNat RawSample.read rest

theorem decode_eq_row (exporter : IpAddress) (timeReceived : UInt64) (payload : Bytes) :
    decode exporter timeReceived payload
      = ((row payload).1.map (RawSample.decode exporter timeReceived)).foldr (· ++ ·)
          (.ofErrors (row payload).2.toList) := by
  unfold decode row
  cases readHeader.run payload <;> rfl

theorem errors_decode (exporter : IpAddress) (timeReceived : UInt64) (payload : Bytes) :
    (decode exporter timeReceived payload).errors
      = ((row payload).1.flatMap fun sample => sample.failures.map reported) ++ (row payload).2.toList := by
  rw [decode_eq_row, Decoded.errors_foldr, List.flatMap_map]
  simp only [RawSample.errors_decode]
  rfl

/-- What ends a row is no failure inside a sample: the datagram is cut off, it is of another version, or the address
of its agent is of an unknown kind. -/
def EndsRow (error : DecodeError) : Prop :=
  error.reason = .truncated ∨ error.reason = .unsupportedVersion ∨ error.reason = .malformedLength

theorem endsRow_of_length {error : DecodeError} (h : SampleRecord.OfLength error) : EndsRow error := by
  obtain ⟨place, declared, available, malformed⟩ := h
  cases error with
  | truncated => exact .inl rfl
  | malformedLength => exact .inr (.inr rfl)
  | unknownTemplate => cases malformed
  | unsupportedField => cases malformed
  | unsupportedVersion => cases malformed

theorem failsOn_word (place : Place) : Reader.FailsOn (Reader.u32 place) fun _ => EndsRow :=
  (SampleRecord.failsOn_word place).mono fun _ _ => endsRow_of_length

theorem failsOn_readHeader : Reader.FailsOn readHeader fun _ => EndsRow := by
  have word := failsOn_word .sflowHeader
  have agent := (SampleRecord.failsOn_readAddress .agentAddress).mono fun _ _ => endsRow_of_length
  refine word.bind_const fun version => ?_
  split
  · exact .fail fun _ => .inr (.inl rfl)
  · exact agent.bind_const fun _ => word.bind_const fun _ => word.bind_const fun _ => word.bind_const fun _ => word

/-- A sample that `RawSample.read` cannot cut out of the row `EndsRow`. -/
theorem failsOn_readSample : Reader.FailsOn RawSample.read fun _ => EndsRow := by
  refine (failsOn_word .sample).bind_const fun format => (failsOn_word .sample).bind_const fun length => ?_
  intro bytes error failed
  dsimp only at failed
  split at failed
  · cases failed
  · split at failed
    · cases failed
    · obtain rfl := Except.error.inj failed
      exact .inl rfl

theorem endsRow_row {payload : Bytes} {error : DecodeError} (ended : (row payload).2 = some error) : EndsRow error := by
  unfold row at ended
  cases header : readHeader.run payload with
  | error own =>
    rw [header] at ended
    obtain rfl := Option.some.inj ended
    exact failsOn_readHeader _ _ header
  | ok found =>
    rw [header] at ended
    exact failsOn_readSample.upTo_const _ _ ended

/-! ## The datagram -/

/-- Behind errors of lengths there is at most one of another kind, and it is the last: the one that ends the row. -/
theorem once_and_last {inside : List DecodeError} (lengths : ∀ error ∈ inside, error.reason = .malformedLength)
    (ending : Option DecodeError) {reason : Reason} (other : reason ≠ .malformedLength) :
    (inside ++ ending.toList).countP (·.reason == reason) ≤ 1
      ∧ ∀ front error behind, inside ++ ending.toList = front ++ error :: behind → error.reason = reason →
          behind = [] := by
  have single : ending.toList.length ≤ 1 := by cases ending <;> simp
  constructor
  · have none_inside : inside.countP (·.reason == reason) = 0 := by
      rw [List.countP_eq_zero]
      intro error mem
      simpa [lengths error mem] using Ne.symm other
    have most := List.countP_le_length (p := (·.reason == reason)) (l := ending.toList)
    rw [List.countP_append, none_inside]
    omega
  · intro front error behind split own
    have outside : error ∉ inside := fun mem => other (own ▸ lengths error mem)
    -- The error stands behind all of the others, so with it and what is behind it the ending is used up.
    obtain ⟨more, -, ended⟩ : ∃ more, front = inside ++ more ∧ ending.toList = more ++ error :: behind := by
      rcases List.append_eq_append_iff.1 split with before | ⟨between, whole, rest⟩
      · exact before
      · cases between with
        | nil => exact ⟨[], by simpa using whole.symm, rest.symm⟩
        | cons first others =>
          obtain ⟨rfl, -⟩ := List.cons.inj rest
          exact absurd (whole ▸ by simp) outside
    have length := congrArg List.length ended
    rw [List.length_append, List.length_cons] at length
    exact List.length_eq_zero_iff.1 (by omega)

/-- An sFlow datagram announces nothing, and its errors are those of its samples (`RawSample.failures`, as `reported`)
and then what ends the `row` of them. Each failure inside a sample is told of once and as a wrong length. That the
datagram is cut off, or of another version, is told of at most once, and last. -/
theorem failures_reported (exporter : IpAddress) (timeReceived : UInt64) (payload : Bytes) (store : Store) :
    let came := Protocol.sflow.decode exporter timeReceived payload store
    came.2 = store ∧ came.1.templatesUpserted = 0
      ∧ (∀ error ∈ came.1.errors, error.reason ≠ .unknownTemplate ∧ error.reason ≠ .unsupportedField)
      ∧ came.1.errors.countP (·.reason == .truncated) ≤ 1
      ∧ came.1.errors.countP (·.reason == .unsupportedVersion) ≤ 1
      ∧ (∀ front error behind, came.1.errors = front ++ error :: behind →
          error.reason = .truncated ∨ error.reason = .unsupportedVersion → behind = [])
      ∧ came.1.errors = ((row payload).1.flatMap fun sample => sample.failures.map reported) ++ (row payload).2.toList
      ∧ ∀ sample ∈ (row payload).1, ∀ failure ∈ sample.failures, (reported failure).reason = .malformedLength := by
  intro came
  let inside := (row payload).1.flatMap fun sample => sample.failures.map reported
  have told : came.1.errors = inside ++ (row payload).2.toList := errors_decode exporter timeReceived payload
  have lengths : ∀ error ∈ inside, error.reason = .malformedLength := by
    intro error mem
    obtain ⟨sample, -, own⟩ := List.mem_flatMap.1 mem
    obtain ⟨failure, failed, rfl⟩ := List.mem_map.1 own
    exact RawSample.reason_of_mem_failures failed
  have truncated := once_and_last lengths (row payload).2 (show Reason.truncated ≠ .malformedLength by decide)
  have version := once_and_last lengths (row payload).2 (show Reason.unsupportedVersion ≠ .malformedLength by decide)
  rw [← told] at truncated version
  refine ⟨rfl, templatesUpserted_decode exporter timeReceived payload, fun error mem => ?_, truncated.1, version.1,
    fun front error behind split own => ?_, told, fun sample _ failure failed =>
      RawSample.reason_of_mem_failures failed⟩
  · rw [told, List.mem_append, Option.mem_toList] at mem
    rcases mem with mem | ended
    · rw [lengths error mem]
      decide
    · rcases endsRow_row ended with reason | reason | reason
      all_goals
        rw [reason]
        decide
  · rcases own with own | own
    · exact truncated.2 front error behind split own
    · exact version.2 front error behind split own

/-- A counter sample that declares 2000 bytes, a flow sample with a next hop of no known kind and a packet of which
nothing is there, a flow sample that ends in its header, and a sample that is cut off. The last of five errors, and no
other, says that the datagram ends early. -/
theorem failures_reported_cut_off :
    let header : DatagramHeader := ⟨some (.v4 ⟨192, 0, 2, 1⟩), 0, 7, 1000⟩
    let counters : Bytes := List.replicate 8 0 ++ Bytes.ofNat 4 0
    let gateway : Bytes := Bytes.ofNat 4 1003 ++ (Bytes.ofNat 4 4 ++ Bytes.ofNat 4 7)
    let packet : Bytes := Bytes.ofNat 4 1 ++ (Bytes.ofNat 4 2 ++ [0, 0])
    let flow : Bytes := List.replicate 28 0 ++ Bytes.ofNat 4 2 ++ (gateway ++ packet)
    let samples : List WrittenSample := [.overlong 2 2000 counters, .framed 1 flow, .framed 1 [0, 0, 0, 1]]
    let vendor : Bytes := Bytes.ofNat 4 4097 ++ (Bytes.ofNat 4 100 ++ [1, 2, 3])
    let payload := header.encode 4 ++ (WrittenSample.encodeAll samples ++ vendor)
    let came := (Protocol.sflow.decode (.v4 ⟨192, 0, 2, 1⟩) 0 payload ∅).1
    let inside : List DecodeError := [.malformedLength .sample 2000 97, .malformedLength .extendedGateway 7 0,
      .malformedLength .flowRecord 4 2, .malformedLength .flowSample 4 0]
    came.errors = inside ++ .truncated .sample 100 3 :: []
      ∧ (row payload).1.length = 3
      ∧ (∀ sample ∈ (row payload).1, ∀ failure ∈ sample.failures, (reported failure).reason = .malformedLength)
      ∧ (∀ behind, came.errors = inside ++ .truncated .sample 100 3 :: behind → behind = []) := by
  intro header counters gateway packet flow samples vendor payload came inside
  have errors : came.errors = inside ++ .truncated .sample 100 3 :: [] := by decide +kernel
  obtain ⟨-, -, -, -, -, last, -, lengths⟩ := failures_reported (.v4 ⟨192, 0, 2, 1⟩) 0 payload ∅
  exact ⟨errors, by decide +kernel, lengths, fun behind split => last _ _ behind split (.inl rfl)⟩

end FlowCollector.Sflow
