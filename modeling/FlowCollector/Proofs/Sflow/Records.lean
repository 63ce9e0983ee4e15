import FlowCollector.Proofs.FlowRecord
import FlowCollector.Proofs.Reader.Spelling
import FlowCollector.Proofs.Sflow.FlowSample

/-!
# The records of a sample, one by one

A flow sample that can be read is a lead of a few words and a row of records behind it. What comes of it is a fold over
the row: each record fills in what it says, and one that is wrong inside fills in nothing and costs one error. A record
that nobody reads is not even an error, so it can stand anywhere in the row or be left out.
-/

set_option autoImplicit false

namespace FlowCollector.Sflow

/-! ## How a sample is written -/

/-- The words in front of the records of a sample, without their count, in the form that the sample has. -/
inductive Lead : Form → Type where
  | compact (sequence source rate pool drops input output : UInt32) : Lead .compact
  | expanded (sequence sourceKind source rate pool drops inputKind input outputKind output : UInt32) : Lead .expanded
  deriving DecidableEq, Repr

namespace Lead

variable {form : Form}

/-- The bytes of a lead, word by word. `SampleHeader.read` keeps four of the words. -/
def encode : Lead form → Bytes
  | compact sequence source rate pool drops input output => spell [sequence, source, rate, pool, drops, input, output]
  | expanded sequence sourceKind source rate pool drops inputKind input outputKind output =>
    spell [sequence, sourceKind, source, rate, pool, drops, inputKind, input, outputKind, output]

def rate : Lead form → UInt32
  | compact _ _ rate _ _ _ _ => rate
  | expanded _ _ _ rate _ _ _ _ _ _ => rate

/-- The interface through which the packet came. The compact form has its kind in the two upper bits, which are taken
away. -/
def input : Lead form → UInt32
  | compact _ _ _ _ _ input _ => input &&& 0x3fffffff
  | expanded _ _ _ _ _ _ _ input _ _ => input

/-- The interface through which the packet left, in the same way as `input`. -/
def output : Lead form → UInt32
  | compact _ _ _ _ _ _ output => output &&& 0x3fffffff
  | expanded _ _ _ _ _ _ _ _ _ output => output

/-- The record before any record of the sample: one packet, with what the lead says. `step` goes on from it. -/
def initial (lead : Lead form) (exporter : IpAddress) (timeReceived : UInt64) : FlowRecord :=
  { FlowRecord.blank exporter timeReceived with
    samplingRate := if lead.rate = 0 then 1 else lead.rate.toUInt64
    inputInterface := lead.input
    outputInterface := lead.output
    packets := 1 }

end Lead

/-- A record as it stands in a sample: its format and its bytes. The length in front of them is theirs. -/
structure WrittenBlock where
  format : UInt32
  body : Bytes
  deriving DecidableEq, Repr

namespace WrittenBlock

/-- The bytes of a record, with its format and its length in front, where `Block.read` cuts it out. -/
def encode (block : WrittenBlock) : Bytes :=
  Bytes.ofNat 4 block.format.toNat ++ (Bytes.ofNat 4 block.body.length ++ block.body)

/-- True of a record whose length can be declared in a word. -/
def Fits (block : WrittenBlock) : Prop := block.body.length < UInt32.size

instance (block : WrittenBlock) : Decidable block.Fits := inferInstanceAs (Decidable (_ < _))

/-- What a record says, if `SampleRecord.read` can read it. -/
def said (block : WrittenBlock) : Except DecodeError SampleRecord :=
  ((SampleRecord.read (.ofWord block.format)).run block.body).map Prod.fst

/-- Fills in what a record says by `SampleRecord.apply`, and nothing if it cannot be read. -/
def step (record : FlowRecord) (block : WrittenBlock) : FlowRecord :=
  match block.said with
  | .ok said => said.apply record
  | .error _ => record

/-- The error that a record costs, if it cannot be read: a wrong length of the record. -/
def failure? (block : WrittenBlock) : Option DecodeError :=
  match block.said with
  | .ok _ => none
  | .error error => some (error.asMalformed .flowRecord)

/-- True of the records that describe the packet itself: its front, or its fields by IPv4 or IPv6. Their formats alone
decide whether `FlowSample.decode` gives a flow record. -/
def isPacket (block : WrittenBlock) : Bool := block.format == 1 || block.format == 3 || block.format == 4

/-- True of the records that are read: those that are `isPacket`, and those of a router and of a gateway. All others
are passed over, whether a vendor has made them, or their format is not known, or they are of a switch. -/
def isRead (block : WrittenBlock) : Bool := block.isPacket || block.format == 1002 || block.format == 1003

end WrittenBlock

/-- A sample with its records, their count in front of them, and what stands behind them. -/
def sampleOf {form : Form} (lead : Lead form) (blocks : List WrittenBlock) (rest : Bytes) : Bytes :=
  lead.encode ++ (Bytes.ofNat 4 blocks.length ++ (blocks.flatMap WrittenBlock.encode ++ rest))

/-- A body that is a sample with this lead and these records, each as long as it declares and all of them counted: a
`sampleOf` them. What stands behind them can be anything. -/
structure IsSample {form : Form} (body : Bytes) (lead : Lead form) (blocks : List WrittenBlock) : Prop where
  fit : ∀ block ∈ blocks, block.Fits
  counted : blocks.length < UInt32.size
  written : ∃ rest, body = sampleOf lead blocks rest

/-! ## One record -/

namespace WrittenBlock

/-- A record as `Block.read` cuts it out of the row. -/
def cut (block : WrittenBlock) : Block := ⟨.ofWord block.format, block.body⟩

theorem describesPacket_cut (block : WrittenBlock) :
    SampleRecord.describesPacket block.cut.format = block.isPacket := by
  have word : ∀ known : UInt32, block.format = known ↔ block.format.toNat = known.toNat :=
    fun known => UInt32.toNat_inj.symm
  rw [Bool.eq_iff_iff]
  simp only [isPacket, SampleRecord.describesPacket, cut, Format.ofWord, Bool.or_eq_true, Bool.and_eq_true, beq_iff_eq,
    word]
  simp
  omega

variable {block : WrittenBlock}

theorem said_of_read {said : SampleRecord} {rest : Bytes}
    (read : (SampleRecord.read (.ofWord block.format)).run block.body = .ok (said, rest)) : block.said = .ok said :=
  congrArg (Except.map Prod.fst) read

theorem exists_read_of_ok {own : SampleRecord} (given : block.said = .ok own) :
    ∃ rest, (SampleRecord.read (.ofWord block.format)).run block.body = .ok (own, rest) := by
  unfold said at given
  cases read : (SampleRecord.read (.ofWord block.format)).run block.body with
  | error error =>
    rw [read] at given
    cases given
  | ok found =>
    rw [read] at given
    obtain rfl := Except.ok.inj given
    exact ⟨found.2, rfl⟩

theorem read_of_error {error : DecodeError} (failed : block.said = .error error) :
    (SampleRecord.read (.ofWord block.format)).run block.body = .error error := by
  unfold said at failed
  cases read : (SampleRecord.read (.ofWord block.format)).run block.body with
  | ok found =>
    rw [read] at failed
    cases failed
  | error own =>
    rw [read] at failed
    rw [Except.error.inj failed]

theorem step_of_ok {said : SampleRecord} (read : block.said = .ok said) (record : FlowRecord) :
    step record block = said.apply record := by
  rw [step, read]

theorem failure?_of_ok {said : SampleRecord} (read : block.said = .ok said) : block.failure? = none := by
  rw [failure?, read]

theorem step_of_error {error : DecodeError} (failed : block.said = .error error) (record : FlowRecord) :
    step record block = record := by
  rw [step, failed]

theorem said_of_not_isRead (passed : block.isRead = false) : block.said = .ok .ignored := by
  have other : block.format.toNat ≠ 1 ∧ block.format.toNat ≠ 3 ∧ block.format.toNat ≠ 4
      ∧ block.format.toNat ≠ 1002 ∧ block.format.toNat ≠ 1003 := by
    simpa [isRead, isPacket, ← UInt32.toNat_inj, and_assoc] using passed
  unfold said SampleRecord.read
  split
  · rfl
  · rename_i own
    have standard : block.format.toNat / 4096 = 0 := Decidable.not_not.1 own
    -- Without an enterprise the word is its number, and none that is read.
    split <;> first
      | rfl
      | rename_i same
        have same : block.format.toNat % 4096 = _ := same
        omega

theorem step_of_not_isRead (passed : block.isRead = false) (record : FlowRecord) :
    step record block = record :=
  step_of_ok (said_of_not_isRead passed) record

theorem failure?_of_not_isRead (passed : block.isRead = false) : block.failure? = none :=
  failure?_of_ok (said_of_not_isRead passed)

theorem isPacket_of_not_isRead (passed : block.isRead = false) : block.isPacket = false := by
  simp only [isRead, Bool.or_eq_false_iff] at passed
  exact passed.1.1

end WrittenBlock

namespace SampleRecord

/-- True of an error that tells of a wrong length, once `asMalformed` has told it of the record. -/
def OfLength (error : DecodeError) : Prop :=
  ∃ place declared available, error.asMalformed .flowRecord = .malformedLength place declared available

theorem ofLength_truncated (place : Place) (needed available : Nat) : OfLength (.truncated place needed available) :=
  ⟨.flowRecord, needed, available, rfl⟩

theorem failsOn_take (place : Place) (count : Nat) : Reader.FailsOn (Reader.take place count) fun _ => OfLength :=
  .take place count fun _ _ => ofLength_truncated ..

theorem failsOn_word (place : Place) : Reader.FailsOn (Reader.u32 place) fun _ => OfLength :=
  .u32 place fun _ _ => ofLength_truncated ..

theorem failsOn_readAddress (place : Place) : Reader.FailsOn (readAddress place) fun _ => OfLength := by
  refine (failsOn_word place).bind_const fun kind => ?_
  split
  · exact .pure none
  · split
    · exact (failsOn_take place 4).bind_const fun _ => .pure _
    · split
      · exact (failsOn_take place 16).bind_const fun _ => .pure _
      · exact .fail fun _ => ⟨place, kind.toNat, 0, rfl⟩

theorem failsOn_readFixedAddress (place : Place) (etherType : EtherType) :
    Reader.FailsOn (readFixedAddress place etherType) fun _ => OfLength := by
  refine (failsOn_take place _).bind_const fun bytes => ?_
  dsimp only
  split
  · exact .pure _
  · exact .fail fun _ => ofLength_truncated ..

theorem failsOn_readSampledIp (place : Place) (etherType : EtherType) :
    Reader.FailsOn (readSampledIp place etherType) fun _ => OfLength := by
  have word := failsOn_word place
  have address := failsOn_readFixedAddress place etherType
  refine word.bind_const fun _ => word.bind_const fun _ => address.bind_const fun _ => address.bind_const fun _ => ?_
  exact word.bind_const fun _ => word.bind_const fun _ => word.bind_const fun _ => word.bind_const fun _ => .pure _

/-- Whatever record cannot be read, a length in it is wrong: it fails with an error `OfLength`. -/
theorem failsOn_read (format : Format) : Reader.FailsOn (read format) fun _ => OfLength := by
  unfold read
  split
  · exact .pure _
  · split
    · have word := failsOn_word .rawHeader
      refine word.bind_const fun _ => word.bind_const fun _ => word.bind_const fun _ => word.bind_const fun length => ?_
      exact (failsOn_take .rawHeader length.toNat).bind_const fun _ => .pure _
    · exact failsOn_readSampledIp .sampledIpv4 .ipv4
    · exact failsOn_readSampledIp .sampledIpv6 .ipv6
    · have word := failsOn_word .extendedRouter
      exact (failsOn_readAddress _).bind_const fun _ => word.bind_const fun _ => word.bind_const fun _ => .pure _
    · have word := failsOn_word .extendedGateway
      have number := failsOn_word .asPath
      refine (failsOn_readAddress _).bind_const fun _ => word.bind_const fun _ => word.bind_const fun _ => ?_
      refine word.bind_const fun _ => word.bind_const fun segments => ?_
      have segment : Reader.FailsOn readPathSegment fun _ => OfLength :=
        number.bind_const fun _ => number.bind_const fun length => number.times_const _
      exact (segment.times_const _).bind_const fun _ => .pure _
    · exact .pure _

end SampleRecord

namespace WrittenBlock

/-- A record that cannot be read costs one error, of a length, its `failure?`. -/
theorem failure?_of_error {block : WrittenBlock} {error : DecodeError} (failed : block.said = .error error) :
    ∃ place declared available, block.failure? = some (.malformedLength place declared available) := by
  obtain ⟨place, declared, available, malformed⟩ := SampleRecord.failsOn_read _ _ _ (read_of_error failed)
  refine ⟨place, declared, available, ?_⟩
  rw [failure?, failed]
  exact congrArg some malformed

theorem sameSample_step (record : FlowRecord) (block : WrittenBlock) : record.SameSample (step record block) := by
  unfold step
  split
  · exact sameSample_apply record _
  · exact .refl record

theorem useBlock_cut (record : FlowRecord) (block : WrittenBlock) :
    FlowSample.useBlock record block.cut = (step record block, block.failure?) := by
  cases read : (SampleRecord.read (.ofWord block.format)).run block.body <;>
    simp only [FlowSample.useBlock, cut, step, failure?, said, read] <;> rfl

end WrittenBlock

/-! ## The row -/

open WrittenBlock (step failure?)

theorem FlowSample.useBlocks_cut (record : FlowRecord) (blocks : List WrittenBlock) :
    useBlocks record (blocks.map WrittenBlock.cut) = (blocks.foldl step record, blocks.filterMap failure?) := by
  induction blocks generalizing record with
  | nil => rfl
  | cons block others ih =>
    rw [List.map_cons, useBlocks, WrittenBlock.useBlock_cut]
    dsimp only
    rw [ih, List.foldl_cons, List.filterMap_cons]
    cases block.failure? <;> rfl

theorem sameSample_foldl (record : FlowRecord) (blocks : List WrittenBlock) :
    record.SameSample (blocks.foldl step record) := by
  induction blocks generalizing record with
  | nil => exact .refl record
  | cons block others ih => exact (WrittenBlock.sameSample_step record block).trans (ih _)

/-! ## Whole samples -/

namespace Lead

variable {form : Form}

/-- What a lead and a count are read to by `SampleHeader.read`. -/
def header (lead : Lead form) (count : UInt32) : SampleHeader := ⟨lead.rate, lead.input, lead.output, count⟩

theorem blank_header (lead : Lead form) (count : UInt32) (exporter : IpAddress) (timeReceived : UInt64) :
    (lead.header count).blank exporter timeReceived = lead.initial exporter timeReceived :=
  rfl

theorem read_encode (lead : Lead form) (count : UInt32) (rest : Bytes) :
    SampleHeader.read form (lead.encode ++ (Bytes.ofNat 4 count.toNat ++ rest)) = .ok (lead.header count, rest) := by
  unfold SampleHeader.read
  cases lead with
  | compact sequence source rate pool drops input output =>
    unfold encode
    rw [Reader.bind_ok (read_word ..), Reader.bind_ok (skip_word ..), Reader.bind_ok (read_word ..),
      Reader.bind_ok (read_word ..), Reader.bind_ok (read_word ..)]
    dsimp only
    rw [Reader.bind_ok (read_word ..), Reader.bind_ok (read_word ..)]
    exact Reader.bind_ok (Reader.u32_toNat _ count rest)
  | expanded sequence sourceKind source rate pool drops inputKind input outputKind output =>
    unfold encode
    rw [Reader.bind_ok (read_word ..), Reader.bind_ok (skip_two_words ..), Reader.bind_ok (read_word ..),
      Reader.bind_ok (read_word ..), Reader.bind_ok (read_word ..)]
    dsimp only
    rw [Reader.bind_ok (read_word ..), Reader.bind_ok (read_word ..), Reader.bind_ok (read_word ..),
      Reader.bind_ok (read_word ..)]
    exact Reader.bind_ok (Reader.u32_toNat _ count rest)

theorem exists_word {bytes : Bytes} (width : bytes.length = 4) : ∃ word : UInt32, bytes = Bytes.ofNat 4 word.toNat := by
  have below := Bytes.toNat_lt bytes
  rw [width] at below
  exact ⟨.ofNat bytes.toNat, by rw [UInt32.toNat_ofNat_of_lt' below, ← width, Bytes.ofNat_toNat]⟩

theorem exists_two_words {bytes : Bytes} (width : bytes.length = 8) :
    ∃ first second : UInt32, bytes = Bytes.ofNat 4 first.toNat ++ Bytes.ofNat 4 second.toNat := by
  obtain ⟨first, front⟩ := exists_word (show (bytes.take 4).length = 4 by simp [width])
  obtain ⟨second, back⟩ := exists_word (show (bytes.drop 4).length = 4 by simp [width])
  exact ⟨first, second, by rw [← front, ← back, List.take_append_drop]⟩

/-- Whatever `SampleHeader.read` read in front of the records, it was a lead and their count. -/
theorem spells_header (form : Form) :
    Reader.Spells (SampleHeader.read form) fun header front =>
      ∃ lead : Lead form, header = lead.header header.recordCount
        ∧ front = lead.encode ++ Bytes.ofNat 4 header.recordCount.toNat := by
  have word := Reader.Spells.u32 .flowSample
  unfold SampleHeader.read
  refine word.bind fun sequence _ first => (Reader.Spells.skip _ _).bind fun _ source skipped => ?_
  refine word.bind fun rate _ third => word.bind fun pool _ fourth => word.bind fun drops _ fifth => ?_
  subst first third fourth fifth
  cases form with
  | compact =>
    obtain ⟨source, rfl⟩ := exists_word skipped
    refine word.bind fun input _ sixth => word.bind fun output _ seventh => word.bind fun count _ last => .pure ?_
    subst sixth seventh last
    exact ⟨.compact sequence source rate pool drops input output, rfl, by simp [encode, spell]⟩
  | expanded =>
    obtain ⟨sourceKind, source, rfl⟩ := exists_two_words skipped
    refine word.bind fun inputKind _ sixth => word.bind fun input _ seventh => word.bind fun outputKind _ eighth => ?_
    refine word.bind fun output _ ninth => word.bind fun count _ last => .pure ?_
    subst sixth seventh eighth ninth last
    refine ⟨.expanded sequence sourceKind source rate pool drops inputKind input outputKind output, rfl, ?_⟩
    simp [encode, spell]

end Lead

namespace WrittenBlock

theorem read_encode {block : WrittenBlock} (fits : block.Fits) (rest : Bytes) :
    Block.read (block.encode ++ rest) = .ok (block.cut, rest) := by
  have back : (UInt32.ofNat block.body.length).toNat = block.body.length := UInt32.toNat_ofNat_of_lt' fits
  unfold Block.read encode
  rw [List.append_assoc, List.append_assoc, Reader.bind_ok (Reader.u32_toNat _ block.format _),
    Reader.bind_ok (Reader.u32_ofNat _ fits _), Reader.bind_ok (Reader.take_append back.symm rest)]
  rfl

theorem times_encode {blocks : List WrittenBlock} (fit : ∀ block ∈ blocks, block.Fits) (rest : Bytes) :
    Reader.times blocks.length Block.read (blocks.flatMap encode ++ rest) = .ok (blocks.map cut, rest) :=
  Reader.times_meaning cut (fun block mem => read_encode (fit block mem)) rest

theorem spells_block :
    Reader.Spells Block.read fun block front =>
      ∃ written : WrittenBlock, written.Fits ∧ block = written.cut ∧ front = written.encode := by
  refine (Reader.Spells.u32 _).bind fun format _ named => (Reader.Spells.u32 _).bind fun length _ measured => ?_
  refine (Reader.Spells.take _ _).bind fun _ body taken => .pure ?_
  obtain ⟨width, rfl⟩ := taken
  subst named measured
  refine ⟨⟨format, body⟩, ?_, rfl, ?_⟩
  · rw [Fits, width]
    exact length.toNat_lt
  · rw [encode, width, List.append_nil]

end WrittenBlock

/-- A sample that can be read is a lead and as many records as it counts, whatever stands behind them: it
`IsSample`. -/
theorem exists_isSample {form : Form} {exporter : IpAddress} {timeReceived : UInt64} {body : Bytes}
    {flow : Option FlowRecord} (accepted : (FlowSample.decode form exporter timeReceived body).outcome = .ok flow) :
    ∃ (lead : Lead form) (blocks : List WrittenBlock), IsSample body lead blocks := by
  have spells : Reader.Spells (FlowSample.readParts form) fun _ front =>
      ∃ (lead : Lead form) (blocks : List WrittenBlock), (∀ block ∈ blocks, block.Fits)
        ∧ blocks.length < UInt32.size
        ∧ front = lead.encode ++ (Bytes.ofNat 4 blocks.length ++ blocks.flatMap WrittenBlock.encode) := by
    refine (Lead.spells_header form).bind fun header _ started => ?_
    refine (WrittenBlock.spells_block.times_meaning _).bind fun _ _ cut => .pure ?_
    obtain ⟨lead, -, rfl⟩ := started
    obtain ⟨blocks, counted, fit, -, rfl⟩ := cut
    exact ⟨lead, blocks, fit, counted ▸ header.recordCount.toNat_lt, by simp [counted]⟩
  cases read : FlowSample.readParts form body with
  | error error =>
    rw [FlowSample.outcome_of_parts_error read] at accepted
    cases accepted
  | ok found =>
    obtain ⟨parts, rest⟩ := found
    obtain ⟨_, ⟨lead, blocks, fit, counted, rfl⟩, same⟩ := spells _ _ _ read
    exact ⟨lead, blocks, fit, counted, rest, by simpa [sampleOf] using same⟩

/-- What comes of a sample, record by record: `step` folded over them, and the `failure?` of each. -/
theorem IsSample.decode {form : Form} {body : Bytes} {lead : Lead form} {blocks : List WrittenBlock}
    (h : IsSample body lead blocks) (exporter : IpAddress) (timeReceived : UInt64) :
    FlowSample.decode form exporter timeReceived body
      = ⟨blocks.filterMap failure?,
        .ok (if blocks.any WrittenBlock.isPacket then
          some (blocks.foldl step (lead.initial exporter timeReceived)).inferEtherType else none)⟩ := by
  obtain ⟨fit, counted, rest, rfl⟩ := h
  have back : (UInt32.ofNat blocks.length).toNat = blocks.length := UInt32.toNat_ofNat_of_lt' counted
  have start := lead.read_encode (.ofNat blocks.length) (blocks.flatMap WrittenBlock.encode ++ rest)
  rw [back] at start
  have row := WrittenBlock.times_encode fit rest
  have parts : FlowSample.readParts form (sampleOf lead blocks rest)
      = .ok ((lead.header (.ofNat blocks.length), blocks.map WrittenBlock.cut), rest) := by
    unfold FlowSample.readParts sampleOf
    rw [Reader.bind_ok start]
    dsimp only [Lead.header]
    rw [back, Reader.bind_ok row]
    rfl
  have packets : ((blocks.map WrittenBlock.cut).any fun block => SampleRecord.describesPacket block.format)
      = blocks.any WrittenBlock.isPacket := by
    rw [List.any_map]
    exact congrArg blocks.any (funext WrittenBlock.describesPacket_cut)
  rw [FlowSample.decode_of_parts parts]
  unfold FlowSample.ofParts
  rw [Lead.blank_header, FlowSample.useBlocks_cut, packets]
  dsimp only
  split <;> rfl

/-! ## Records that nobody reads -/

theorem foldl_filter_isRead (record : FlowRecord) (blocks : List WrittenBlock) :
    (blocks.filter WrittenBlock.isRead).foldl step record = blocks.foldl step record := by
  have each : ∀ (record : FlowRecord) (block : WrittenBlock),
      (if block.isRead then step record block else record) = step record block := by
    intro record block
    cases passed : block.isRead with
    | true => rfl
    | false => exact (WrittenBlock.step_of_not_isRead passed record).symm
  simp only [List.foldl_filter, each]

theorem filterMap_filter_isRead (blocks : List WrittenBlock) :
    (blocks.filter WrittenBlock.isRead).filterMap failure? = blocks.filterMap failure? := by
  have each : ∀ block : WrittenBlock, (if block.isRead then block.failure? else none) = block.failure? := by
    intro block
    cases passed : block.isRead with
    | true => rfl
    | false => exact (WrittenBlock.failure?_of_not_isRead passed).symm
  simp only [List.filterMap_filter, each]

theorem any_filter_isRead (blocks : List WrittenBlock) :
    (blocks.filter WrittenBlock.isRead).any WrittenBlock.isPacket = blocks.any WrittenBlock.isPacket := by
  have each : ∀ block : WrittenBlock, (block.isRead && block.isPacket) = block.isPacket := by
    intro block
    cases passed : block.isRead with
    | true => rfl
    | false => exact (WrittenBlock.isPacket_of_not_isRead passed).symm
  simp only [List.any_filter, each]

/-- A flow sample can be read by `FlowSample.decode` just if it `IsSample`, and it is folded over its records then.
Each fills in what it says by `step`, and none what the lead has said of the sample; one that cannot be read fills in
nothing, and costs one error of a length. Those that nobody reads (`isRead`) can be anywhere in the row, or
nowhere. -/
theorem decode_folds (form : Form) (exporter : IpAddress) (timeReceived : UInt64) :
    let decoded := FlowSample.decode form exporter timeReceived
    (∀ body, (∃ flow, (decoded body).outcome = .ok flow) ↔
      ∃ (lead : Lead form) (blocks : List WrittenBlock), IsSample body lead blocks)
    ∧ (∀ (body : Bytes) (lead : Lead form) (blocks : List WrittenBlock), IsSample body lead blocks →
      (decoded body).errors = blocks.filterMap failure?
      ∧ ∀ record, (decoded body).outcome = .ok (some record) →
        record = (blocks.foldl step (lead.initial exporter timeReceived)).inferEtherType
          ∧ (lead.initial exporter timeReceived).SameSample record)
    ∧ (∀ (block : WrittenBlock) (record : FlowRecord),
      record.SameSample (step record block)
      ∧ (∀ said, block.said = .ok said → step record block = said.apply record ∧ block.failure? = none)
      ∧ ∀ error, block.said = .error error → step record block = record
          ∧ ∃ place declared available, block.failure? = some (.malformedLength place declared available))
    ∧ ∀ (body other : Bytes) (lead : Lead form) (blocks others : List WrittenBlock),
      IsSample body lead blocks → IsSample other lead others →
      blocks.filter WrittenBlock.isRead = others.filter WrittenBlock.isRead → decoded body = decoded other := by
  intro decoded
  refine ⟨?_, ?_, ?_, ?_⟩
  · intro body
    constructor
    · rintro ⟨flow, accepted⟩
      exact exists_isSample accepted
    · rintro ⟨lead, blocks, sample⟩
      exact ⟨_, congrArg FlowSample.Result.outcome (sample.decode exporter timeReceived)⟩
  · intro body lead blocks sample
    have whole := sample.decode exporter timeReceived
    refine ⟨congrArg FlowSample.Result.errors whole, fun record given => ?_⟩
    have same := Except.ok.inj ((congrArg FlowSample.Result.outcome whole).symm.trans given)
    split at same
    · obtain rfl := Option.some.inj same
      exact ⟨rfl, (sameSample_foldl _ blocks).trans (FlowRecord.sameSample_inferEtherType _)⟩
    · cases same
  · intro block record
    refine ⟨WrittenBlock.sameSample_step record block, fun said read => ?_, fun error failed => ?_⟩
    · exact ⟨WrittenBlock.step_of_ok read record, WrittenBlock.failure?_of_ok read⟩
    · exact ⟨WrittenBlock.step_of_error failed record, WrittenBlock.failure?_of_error failed⟩
  · intro body other lead blocks others sample sample' same
    show FlowSample.decode form exporter timeReceived body = FlowSample.decode form exporter timeReceived other
    rw [sample.decode, sample'.decode, ← foldl_filter_isRead _ blocks, ← filterMap_filter_isRead blocks,
      ← any_filter_isRead blocks, same, foldl_filter_isRead, filterMap_filter_isRead, any_filter_isRead]

/-- The fields of a packet, and a record of a router that is too short: with a record of a vendor in front, one of the
switch between them and bytes behind, nothing else comes of the sample. -/
theorem decode_folds_passed_over :
    let exporter : IpAddress := .v4 ⟨192, 0, 2, 1⟩
    let lead : Lead .compact := .compact 1 0 512 0 0 3 0x40000004
    let packet : WrittenBlock := ⟨3, spell [90, 17, 0x0a000001, 0x0a000002, 53, 5353, 0, 0]⟩
    let short : WrittenBlock := ⟨1002, [0, 0]⟩
    let body := sampleOf lead [packet, short] []
    let other := sampleOf lead [⟨4097, [1, 2, 3]⟩, packet, ⟨1001, []⟩, short] [7, 7]
    let decoded := FlowSample.decode .compact exporter 0
    decoded other = decoded body
      ∧ (decoded body).errors = [.malformedLength .flowRecord 4 2]
      ∧ ∃ record, (decoded body).outcome = .ok (some record) ∧ (lead.initial exporter 0).SameSample record
        ∧ (record.samplingRate, record.outputInterface, record.bytes, record.destinationPort) = (512, 4, 90, 5353) := by
  intro exporter lead packet short body other decoded
  obtain ⟨-, folds, -, passed⟩ := decode_folds .compact exporter 0
  have sample : IsSample body lead [packet, short] := ⟨by decide, by decide, [], rfl⟩
  have sample' : IsSample other lead [⟨4097, [1, 2, 3]⟩, packet, ⟨1001, []⟩, short] := ⟨by decide, by decide, _, rfl⟩
  obtain ⟨errors, given⟩ := folds body lead _ sample
  have emitted := (congrArg FlowSample.Result.outcome (sample.decode exporter 0)).trans
    (congrArg Except.ok (if_pos (by decide)))
  refine ⟨passed other body lead _ _ sample' sample (by decide), errors.trans (by decide +kernel), _, emitted, ?_⟩
  exact ⟨(given _ emitted).2, by decide +kernel⟩

end FlowCollector.Sflow
