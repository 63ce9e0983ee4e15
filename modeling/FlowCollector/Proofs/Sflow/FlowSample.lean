import FlowCollector.Proofs.Reader.Taking
import FlowCollector.Proofs.Sflow.Samples

/-!
# Flow samples, followed and read

A flow sample is gone over in two ways. It is read word by word, and where its declared length cannot be right it is
followed, by the size of its header and the lengths of its records. The second has to end where the first does, or the
samples behind would be cut in the wrong place, and it knows nothing of what the words mean.

A flow sample is also written in two ways, and here they are one: what stands in front of the records is read to the same
header, whichever form it has.
-/

set_option autoImplicit false

namespace FlowCollector.Sflow

/-- The format word of the samples of a form, from which `RawSample.form?` tells it. -/
def Form.word : Form → UInt32
  | .compact => 1
  | .expanded => 3

namespace FlowSample

variable {form : Form} {exporter : IpAddress} {timeReceived : UInt64} {body rest : Bytes} {header : SampleHeader}
  {blocks : List Block}

/-! ## Cut first, then used -/

/-- Takes the header and every record that it counts, without a look at what the records mean. -/
def readParts (form : Form) : Reader (SampleHeader × List Block) := do
  let header ← SampleHeader.read form
  let blocks ← Reader.times header.recordCount.toNat Block.read
  return (header, blocks)

/-- What comes of a sample all of whose records were there: `FlowSample.decode` is this of `readParts`. -/
def ofParts (exporter : IpAddress) (timeReceived : UInt64) (header : SampleHeader) (blocks : List Block) : Result :=
  let (record, errors) := useBlocks (header.blank exporter timeReceived) blocks
  if blocks.any fun block => SampleRecord.describesPacket block.format then ⟨errors, .ok (some record.inferEtherType)⟩
  else ⟨errors, .ok none⟩

theorem decode_of_parts (h : readParts form body = .ok ((header, blocks), rest)) :
    decode form exporter timeReceived body = ofParts exporter timeReceived header blocks := by
  obtain ⟨own, middle, readHeader, more⟩ := Reader.exists_of_bind_ok h
  obtain ⟨all, left, readBlocks, done⟩ := Reader.exists_of_bind_ok more
  obtain ⟨same, -⟩ := Prod.mk.inj (Except.ok.inj done)
  obtain ⟨rfl, rfl⟩ := Prod.mk.inj same
  simp only [decode, StateT.run, readHeader, Reader.upTo_of_times_ok readBlocks, ofParts]

theorem outcome_of_parts_error {error : DecodeError} (h : readParts form body = .error error) :
    (decode form exporter timeReceived body).outcome = .error error := by
  unfold readParts at h
  cases readHeader : SampleHeader.read form body with
  | error own =>
    rw [Reader.bind_error readHeader] at h
    obtain rfl := Except.error.inj h
    simp only [decode, StateT.run, readHeader]
  | ok found =>
    obtain ⟨header, middle⟩ := found
    rw [Reader.bind_ok readHeader] at h
    cases readBlocks : Reader.times header.recordCount.toNat Block.read middle with
    | error own =>
      rw [Reader.bind_error readBlocks] at h
      obtain rfl := Except.error.inj h
      simp only [decode, StateT.run, readHeader, Reader.upTo_of_times_error readBlocks]
    | ok found =>
      rw [Reader.bind_ok readBlocks] at h
      cases h

theorem ofParts_ok (exporter : IpAddress) (timeReceived : UInt64) (header : SampleHeader) (blocks : List Block) :
    ∃ record, (ofParts exporter timeReceived header blocks).outcome = .ok record := by
  unfold ofParts
  dsimp only
  split
  · exact ⟨_, rfl⟩
  · exact ⟨_, rfl⟩

theorem takes_readParts (form : Form) : Reader.Takes (readParts form) fun _ _ => True := by
  have word : Reader.Takes (Reader.u32 .flowSample) fun _ _ => True := (Reader.Takes.u32 _).anything
  have header : Reader.Takes (SampleHeader.read form) fun _ _ => True := by
    unfold SampleHeader.read
    refine word.bind fun _ _ _ => (Reader.Takes.skip _ _).anything.bind fun _ _ _ => ?_
    refine word.bind fun _ _ _ => word.bind fun _ _ _ => word.bind fun _ _ _ => ?_
    cases form with
    | compact =>
      exact word.bind fun _ _ _ => word.bind fun _ _ _ => word.bind fun _ _ _ => Reader.Takes.pure trivial
    | expanded =>
      refine word.bind fun _ _ _ => word.bind fun _ _ _ => word.bind fun _ _ _ => ?_
      exact word.bind fun _ _ _ => word.bind fun _ _ _ => Reader.Takes.pure trivial
  have block : Reader.Takes Block.read fun _ _ => True := by
    refine (Reader.Takes.u32 _).bind fun _ _ _ => (Reader.Takes.u32 _).bind fun _ _ _ => ?_
    exact (Reader.Takes.take _ _).bind fun _ _ _ => Reader.Takes.pure trivial
  exact header.bind fun header _ _ => (block.times _).bind fun _ _ _ => Reader.Takes.pure trivial

end FlowSample

/-! ## Followed as it is read -/

namespace Sample

theorem inStep_record : Reader.InStep (fun _ _ => True) skipRecord Block.read := by
  refine (Reader.InStep.u32 _ _).bind fun _ _ _ => (Reader.InStep.u32 _ _).bind fun length length' same => ?_
  subst same
  refine (Reader.InStep.take _ _ _).bind fun _ _ _ => Reader.InStep.pure trivial

/-- The words in front of the count are as long as the bytes that `fixedLength?` has passed over there. -/
theorem inStep_header (form : Form) {fixed : Nat} (front : fixedLength? (.ofWord form.word) = some fixed) :
    Reader.InStep (fun count header => count = header.recordCount)
      (Reader.skip .sample fixed >>= fun _ => Reader.u32 .sample) (SampleHeader.read form) := by
  have count (make : UInt32 → SampleHeader) (counts : ∀ count, count = (make count).recordCount) :
      Reader.InStep (fun count header => count = header.recordCount)
        (Reader.skip .sample 0 >>= fun _ => Reader.u32 .sample)
        (Reader.u32 .flowSample >>= fun count => pure (make count)) := by
    refine Reader.InStep.skip_nothing ((Reader.InStep.u32 _ _).map_right fun count read same => ?_)
    exact same.trans (counts read)
  cases form with
  | compact =>
    obtain rfl := Option.some.inj front
    unfold SampleHeader.read
    refine Reader.InStep.skip_u32 24 fun _ => Reader.InStep.skip_skip 4 20 fun _ => ?_
    refine Reader.InStep.skip_u32 16 fun _ => Reader.InStep.skip_u32 12 fun _ => ?_
    refine Reader.InStep.skip_u32 8 fun _ => Reader.InStep.skip_u32 4 fun _ => ?_
    exact Reader.InStep.skip_u32 0 fun _ => count _ fun _ => rfl
  | expanded =>
    obtain rfl := Option.some.inj front
    unfold SampleHeader.read
    refine Reader.InStep.skip_u32 36 fun _ => Reader.InStep.skip_skip 8 28 fun _ => ?_
    refine Reader.InStep.skip_u32 24 fun _ => Reader.InStep.skip_u32 20 fun _ => ?_
    refine Reader.InStep.skip_u32 16 fun _ => Reader.InStep.skip_u32 12 fun _ => ?_
    refine Reader.InStep.skip_u32 8 fun _ => Reader.InStep.skip_u32 4 fun _ => ?_
    exact Reader.InStep.skip_u32 0 fun _ => count _ fun _ => rfl

/-- A sample is followed by `walk` over the bytes of its parts, those that `readParts` takes. -/
theorem inStep_walk (form : Form) {fixed : Nat} (front : fixedLength? (.ofWord form.word) = some fixed) :
    Reader.InStep (fun _ _ => True) (walk fixed) (FlowSample.readParts form) := by
  unfold walk FlowSample.readParts
  rw [← bind_assoc]
  refine (inStep_header form front).bind fun count header same => ?_
  subst same
  exact (inStep_record.times _).bind fun _ _ _ => Reader.InStep.pure trivial

end Sample

/-- Following a flow sample by `Sample.structuralLength?` comes to an end if and only if `FlowSample.decode` can read
the sample, and then at its end: what it passes over is as much of the body as the sample needs, and that alone is
read to the same flow record and the same errors. -/
theorem structuralLength_agrees (form : Form) (exporter : IpAddress) (timeReceived : UInt64) (body : Bytes) :
    let decoded := FlowSample.decode form exporter timeReceived
    let length? := Sample.structuralLength? (.ofWord form.word)
    RawSample.form? (.ofWord form.word) = some form
      ∧ ((length? body).isSome ↔ ∃ record, (decoded body).outcome = .ok record)
      ∧ ∀ length, length? body = some length →
          length ≤ body.length ∧ decoded (body.take length) = decoded body := by
  intro decoded length?
  obtain ⟨fixed, front⟩ : ∃ fixed, Sample.fixedLength? (.ofWord form.word) = some fixed := by
    cases form <;> exact ⟨_, rfl⟩
  refine ⟨by cases form <;> rfl, ?_⟩
  rcases Sample.inStep_walk form front body with ⟨_, parts, rest, -, walked, read⟩ | ⟨_, error, failed, failure⟩
  · have found : length? body = some (body.length - rest.length) := by
      simp only [length?, Sample.structuralLength?, front, Option.bind_eq_bind, Option.bind_some, StateT.run, walked]
    have whole : decoded body = FlowSample.ofParts exporter timeReceived parts.1 parts.2 :=
      FlowSample.decode_of_parts read
    obtain ⟨shorter, alone⟩ := (FlowSample.takes_readParts form).take_left read
    refine ⟨?_, ?_⟩
    · rw [found, whole]
      exact ⟨fun _ => FlowSample.ofParts_ok .., fun _ => rfl⟩
    · intro length same
      obtain rfl := Option.some.inj (found.symm.trans same)
      exact ⟨Nat.sub_le .., (FlowSample.decode_of_parts alone).trans whole.symm⟩
  · have lost : length? body = none := by
      simp only [length?, Sample.structuralLength?, front, Option.bind_eq_bind, Option.bind_some, StateT.run, failed]
    have broken : (decoded body).outcome = .error error := FlowSample.outcome_of_parts_error failure
    rw [lost, broken]
    exact ⟨by simp, by simp⟩

/-- Behind the words in front and the one record that they count, four bytes are left alone. -/
example :
    Sample.structuralLength? (.ofWord Form.compact.word)
      (List.replicate 31 0 ++ [1] ++ [0, 0, 0, 9, 0, 0, 0, 2, 7, 7] ++ [0, 0, 0, 3]) = some 42 := by
  decide

/-! ## One sample in both forms -/

/-- An interface of a packet: in two bits what kind of interface it is, and in thirty the interface itself. -/
structure Interface where
  kind : Fin 4
  number : Fin 0x40000000
  deriving DecidableEq, Repr

/-- An interface in one word, its kind on top, as the compact form has it. -/
def Interface.word (interface : Interface) : UInt32 :=
  UInt32.ofNat interface.kind <<< 30 ||| UInt32.ofNat interface.number

/-- What both forms of a sample say in front of their records, and `SampleHeader` keeps. -/
structure Sampling where
  rate : UInt32
  pool : UInt32
  drops : UInt32
  input : Interface
  output : Interface
  recordCount : UInt32
  deriving DecidableEq, Repr

/-- The bytes of words that stand one behind the other, each `Bytes.ofNat` of four. -/
def spell (words : List UInt32) : Bytes :=
  words.flatMap fun word => Bytes.ofNat 4 word.toNat

namespace Sampling

/-- The compact form: one word for where it was sampled, and one for each interface, its `Interface.word`. -/
def compact (sampling : Sampling) (sequence source : UInt32) : Bytes :=
  spell [sequence, source, sampling.rate, sampling.pool, sampling.drops, sampling.input.word, sampling.output.word,
    sampling.recordCount]

/-- The expanded form: two words for where it was sampled, and two for each interface. The words that tell a kind can
be anything, they need not be the kinds of the interfaces. -/
def expanded (sampling : Sampling) (sequence sourceKind source inputKind outputKind : UInt32) : Bytes :=
  spell [sequence, sourceKind, source, sampling.rate, sampling.pool, sampling.drops, inputKind,
    .ofNat sampling.input.number, outputKind, .ofNat sampling.output.number, sampling.recordCount]

/-- What either form is read to by `SampleHeader.read`. -/
def header (sampling : Sampling) : SampleHeader :=
  ⟨sampling.rate, .ofNat sampling.input.number, .ofNat sampling.output.number, sampling.recordCount⟩

end Sampling

theorem spell_append (word : UInt32) (words : List UInt32) (rest : Bytes) :
    spell (word :: words) ++ rest = Bytes.ofNat 4 word.toNat ++ (spell words ++ rest) := by
  rw [spell, List.flatMap_cons, List.append_assoc]
  rfl

theorem read_word (place : Place) (word : UInt32) (words : List UInt32) (rest : Bytes) :
    Reader.u32 place (spell (word :: words) ++ rest) = .ok (word, spell words ++ rest) := by
  rw [spell_append]
  exact Reader.u32_toNat place word _

theorem skip_word (place : Place) (word : UInt32) (words : List UInt32) (rest : Bytes) :
    Reader.skip place 4 (spell (word :: words) ++ rest) = .ok ((), spell words ++ rest) := by
  rw [spell_append]
  exact Reader.skip_append (Bytes.length_ofNat ..) _

theorem skip_two_words (place : Place) (first second : UInt32) (words : List UInt32) (rest : Bytes) :
    Reader.skip place 8 (spell (first :: second :: words) ++ rest) = .ok ((), spell words ++ rest) := by
  have width : (Bytes.ofNat 4 first.toNat ++ Bytes.ofNat 4 second.toNat).length = 8 := by
    rw [List.length_append, Bytes.length_ofNat, Bytes.length_ofNat]
  rw [spell_append, spell_append, ← List.append_assoc]
  exact Reader.skip_append width _

theorem kind_and_mask (kind : Fin 4) : (UInt32.ofNat kind <<< 30) &&& SampleHeader.interfaceMask = 0 := by
  revert kind
  decide

theorem number_and_mask (number : Fin 0x40000000) :
    UInt32.ofNat number &&& SampleHeader.interfaceMask = .ofNat number := by
  apply UInt32.toNat_inj.1
  have small : number.val < UInt32.size := Nat.lt_trans number.isLt (by decide)
  rw [UInt32.toNat_and, UInt32.toNat_ofNat_of_lt' small]
  -- the mask is all of the lowest thirty bits
  exact Nat.and_two_pow_sub_one_of_lt_two_pow (n := 30) number.isLt

/-- The mask takes the kind away from `Interface.word` and leaves all of the interface. -/
theorem Interface.word_and_mask (interface : Interface) :
    interface.word &&& SampleHeader.interfaceMask = .ofNat interface.number := by
  have apart : interface.word &&& SampleHeader.interfaceMask
      = (UInt32.ofNat interface.kind <<< 30 &&& SampleHeader.interfaceMask)
        ||| (UInt32.ofNat interface.number &&& SampleHeader.interfaceMask) := by
    apply UInt32.toNat_inj.1
    simp only [word, UInt32.toNat_and, UInt32.toNat_or]
    exact Nat.and_or_distrib_right ..
  rw [apart, kind_and_mask, number_and_mask]
  exact UInt32.zero_or

namespace Sampling

variable (sampling : Sampling) (records : Bytes)

theorem read_compact (sequence source : UInt32) :
    SampleHeader.read .compact (sampling.compact sequence source ++ records) = .ok (sampling.header, records) := by
  unfold SampleHeader.read compact
  rw [Reader.bind_ok (read_word ..), Reader.bind_ok (skip_word ..), Reader.bind_ok (read_word ..),
    Reader.bind_ok (read_word ..), Reader.bind_ok (read_word ..)]
  dsimp only
  rw [Reader.bind_ok (read_word ..), Reader.bind_ok (read_word ..), Reader.bind_ok (read_word ..),
    sampling.input.word_and_mask, sampling.output.word_and_mask]
  rfl

theorem read_expanded (sequence sourceKind source inputKind outputKind : UInt32) :
    SampleHeader.read .expanded (sampling.expanded sequence sourceKind source inputKind outputKind ++ records)
      = .ok (sampling.header, records) := by
  unfold SampleHeader.read expanded
  rw [Reader.bind_ok (read_word ..), Reader.bind_ok (skip_two_words ..), Reader.bind_ok (read_word ..),
    Reader.bind_ok (read_word ..), Reader.bind_ok (read_word ..)]
  dsimp only
  rw [Reader.bind_ok (read_word ..), Reader.bind_ok (read_word ..), Reader.bind_ok (read_word ..),
    Reader.bind_ok (read_word ..), Reader.bind_ok (read_word ..)]
  rfl

end Sampling

/-- The two forms of a sample are two spellings of one thing: where `Sampling.compact` and `Sampling.expanded` say the
same of the packet and the same records stand behind, `FlowSample.decode` has the same flow record of them, or the
same failure, and the same errors. What only one of the forms says, and the kind of an interface, has no part in
it. -/
theorem forms_agree (exporter : IpAddress) (timeReceived : UInt64) (sampling : Sampling)
    (sequence source sequence' sourceKind sourceIndex inputKind outputKind : UInt32) (records : Bytes) :
    let compact := sampling.compact sequence source ++ records
    let expanded := sampling.expanded sequence' sourceKind sourceIndex inputKind outputKind ++ records
    SampleHeader.read .compact compact = .ok (sampling.header, records)
      ∧ SampleHeader.read .expanded expanded = .ok (sampling.header, records)
      ∧ FlowSample.decode .compact exporter timeReceived compact
          = FlowSample.decode .expanded exporter timeReceived expanded := by
  intro compact expanded
  have inCompact : SampleHeader.read .compact compact = .ok (sampling.header, records) :=
    sampling.read_compact records sequence source
  have inExpanded : SampleHeader.read .expanded expanded = .ok (sampling.header, records) :=
    sampling.read_expanded records sequence' sourceKind sourceIndex inputKind outputKind
  refine ⟨inCompact, inExpanded, ?_⟩
  -- behind the header, decoding does not look at the form
  unfold FlowSample.decode
  simp only [StateT.run]
  rw [inCompact, inExpanded]

end FlowCollector.Sflow
