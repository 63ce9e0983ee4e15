import FlowCollector.Proofs.Reader.Progress
import FlowCollector.Proofs.Sflow.Records
import FlowCollector.Proofs.Sflow.Route

/-!
# Loops that a datagram counts

Five loops of the decoder are told by the datagram how often they shall run, and the numbers for that go up to 2^32 - 1:
the samples, the records of a sample, the records of a sample that is only passed over, the segments of a path and the
numbers of a segment. `Runs` is where decoding comes to in them, each with what is left of its count.

A count is a wish. Whatever a loop reads, it takes a word at least, and it stops at the first thing that it cannot read,
so it is the bytes of the datagram and not the count that say how long it runs.
-/

set_option autoImplicit false

namespace FlowCollector.Sflow

/-- A loop that a number in the datagram says the length of. There are five, and each reads an `item` of its own. -/
inductive Loop where
  /-- Over the samples of a datagram, each by `RawSample.read`. -/
  | samples
  /-- Over the records of a sample that is too long, to find where it ends (`Sample.structuralLength?`). -/
  | passed
  /-- Over the records of a flow sample, each by `Block.read`. -/
  | records
  /-- Over the segments of a path, in the record of a gateway. -/
  | segments
  /-- Over the numbers of a segment, each of which is a system. -/
  | numbers
  deriving DecidableEq, Repr

namespace Loop

def Value : Loop → Type
  | samples => RawSample
  | passed => Unit
  | records => Block
  | segments => List UInt32
  | numbers => UInt32

/-- Reads one item of a loop, as the decoder does each time. -/
def item : (loop : Loop) → Reader loop.Value
  | samples => RawSample.read
  | passed => Sample.skipRecord
  | records => Block.read
  | segments => SampleRecord.readPathSegment
  | numbers => Reader.u32 .asPath

end Loop

/-- Decoding the datagram comes to where a loop has so many items left to read, from these bytes. Each loop starts
with the number that was declared for it, in front of its first item, and `next` goes on. -/
inductive Runs (payload : Bytes) : Loop → Nat → Bytes → Prop
  | samples {count : UInt32} {rest : Bytes} (header : readHeader payload = .ok (count, rest)) :
    Runs payload .samples count.toNat rest
  /-- A sample declares more than there is, and its format is one whose records can be followed. -/
  | passed {left fixed : Nat} {bytes named body front rest : Bytes} {format length count : UInt32}
    (turn : Runs payload .samples (left + 1) bytes)
    (isNamed : Reader.u32 .sample bytes = .ok (format, named))
    (isMeasured : Reader.u32 .sample named = .ok (length, body)) (tooLong : body.length < length.toNat)
    (isFixed : Sample.fixedLength? (.ofWord format) = some fixed)
    (isSkipped : Reader.skip .sample fixed body = .ok ((), front))
    (isCounted : Reader.u32 .sample front = .ok (count, rest)) :
    Runs payload .passed count.toNat rest
  | records {left : Nat} {bytes body behind rest : Bytes} {format : Format} {form : Form} {header : SampleHeader}
    (turn : Runs payload .samples (left + 1) bytes)
    (isCut : RawSample.read bytes = .ok (.framed format body, behind))
    (isFlow : RawSample.form? format = some form)
    (isHeader : SampleHeader.read form body = .ok (header, rest)) :
    Runs payload .records header.recordCount.toNat rest
  /-- A record says through which systems the packet goes: three words behind the next hop are the segments. -/
  | segments {left : Nat} {bytes behind named front rest : Bytes} {block : Block} {nextHop : Option IpAddress}
    {words : List UInt32} {count : UInt32}
    (turn : Runs payload .records (left + 1) bytes)
    (isCut : Block.read bytes = .ok (block, behind)) (isGateway : block.format = ⟨0, 1003⟩)
    (isAddressed : readAddress .extendedGateway block.body = .ok (nextHop, named))
    (isNumbered : Reader.times 3 (Reader.u32 .extendedGateway) named = .ok (words, front))
    (isCounted : Reader.u32 .extendedGateway front = .ok (count, rest)) :
    Runs payload .segments count.toNat rest
  | numbers {left : Nat} {bytes named rest : Bytes} {kind count : UInt32}
    (turn : Runs payload .segments (left + 1) bytes)
    (isNamed : Reader.u32 .asPath bytes = .ok (kind, named))
    (isCounted : Reader.u32 .asPath named = .ok (count, rest)) :
    Runs payload .numbers count.toNat rest
  /-- An item has been read, and one less is left. -/
  | next {loop : Loop} {left : Nat} {bytes rest : Bytes} {value : loop.Value}
    (turn : Runs payload loop (left + 1) bytes) (isRead : loop.item bytes = .ok (value, rest)) :
    Runs payload loop left rest

/-! ## What an item takes -/

/-- The bytes of a sample that was cut out. One that is too long has none of its own, since the samples behind may be
in them. -/
def RawSample.body : RawSample → Bytes
  | .framed _ body => body
  | .overlong .. => []

/-- Two words, whatever becomes of the sample, and its `body` behind them. -/
theorem spells_sample :
    Reader.Spells RawSample.read fun sample front => ∃ lead, 8 ≤ lead.length ∧ front = lead ++ sample.body := by
  have word := Reader.Spells.u32 .sample
  refine word.bind fun format _ named => word.bind fun length _ measured => ?_
  subst named measured
  intro bytes sample rest read
  dsimp only at read
  split at read
  · obtain ⟨rfl, rfl⟩ := Prod.mk.inj (Except.ok.inj read)
    refine ⟨bytes.take length.toNat, ⟨Bytes.ofNat 4 format.toNat ++ Bytes.ofNat 4 length.toNat, by simp, ?_⟩,
      (List.take_append_drop ..).symm⟩
    exact (List.append_assoc ..).symm
  · split at read
    · rename_i actual _
      obtain ⟨rfl, rfl⟩ := Prod.mk.inj (Except.ok.inj read)
      refine ⟨bytes.take actual, ⟨_, ?_, (List.append_nil _).symm⟩, (List.take_append_drop ..).symm⟩
      simp
      omega
    · cases read

theorem spells_word (place : Place) : Reader.Spells (Reader.u32 place) fun _ front => 4 ≤ front.length := by
  refine (Reader.Spells.u32 place).mono fun value front same => Nat.le_of_eq ?_
  rw [same, Bytes.length_ofNat]

theorem spells_blockHeader : Reader.Spells Block.read fun _ front => 8 ≤ front.length := by
  refine WrittenBlock.spells_block.mono fun block front own => ?_
  obtain ⟨written, -, -, rfl⟩ := own
  simp [WrittenBlock.encode]
  omega

/-- Every `item` of every loop takes a word or more. -/
theorem Loop.spells_item (loop : Loop) : Reader.Spells loop.item fun _ front => 4 ≤ front.length := by
  cases loop with
  | samples =>
    refine spells_sample.mono fun sample front own => ?_
    obtain ⟨lead, long, rfl⟩ := own
    rw [List.length_append]
    omega
  | passed =>
    refine (spells_word _).bind fun _ front first => (Reader.Spells.u32 _).bind fun length _ _ => ?_
    refine (Reader.Spells.skip _ _).mono fun _ back _ => ?_
    simp only [List.length_append]
    omega
  | records => exact spells_blockHeader.mono fun _ _ long => Nat.le_trans (by decide) long
  | segments =>
    refine spells_pathSegment.mono fun systems front own => ?_
    obtain ⟨segment, -, -, rfl⟩ := own
    simp [PathSegment.encode, spell]
  | numbers => exact spells_word _

theorem Loop.onward_item (loop : Loop) : Reader.Onward loop.item :=
  loop.spells_item.mono fun _ _ long => Nat.le_trans (by decide) long

/-! ## Where the loops run -/

theorem four_le_length_encodeAddress (address : Option IpAddress) : 4 ≤ (encodeAddress address).length := by
  unfold encodeAddress
  split <;> simp

theorem spells_readHeader : Reader.Spells readHeader fun _ front => 24 ≤ front.length := by
  have word := spells_word .sflowHeader
  refine word.bind fun version _ first => ?_
  split
  · exact .fail _
  · refine (spells_address .agentAddress).bind fun agent _ addressed => word.bind fun _ _ second => ?_
    refine word.bind fun _ _ third => word.bind fun _ _ fourth => word.mono fun _ _ last => ?_
    have known := four_le_length_encodeAddress agent
    subst addressed
    simp only [List.length_append]
    omega

theorem isInfix_sample {sample : RawSample} {bytes rest : Bytes} (read : RawSample.read bytes = .ok (sample, rest)) :
    sample.body <:+: bytes := by
  obtain ⟨_, ⟨lead, -, rfl⟩, rfl⟩ := spells_sample _ _ _ read
  exact ⟨lead, rest, rfl⟩

theorem isInfix_block {block : Block} {bytes rest : Bytes} (read : Block.read bytes = .ok (block, rest)) :
    block.body <:+: bytes := by
  obtain ⟨_, ⟨written, -, rfl, rfl⟩, rfl⟩ := WrittenBlock.spells_block _ _ _ read
  exact ⟨Bytes.ofNat 4 written.format.toNat ++ Bytes.ofNat 4 written.body.length, rest, by
    simp [WrittenBlock.encode, WrittenBlock.cut]⟩

/-- Wherever a loop `Runs`, it runs in the datagram. -/
theorem Runs.isInfix {payload bytes : Bytes} {loop : Loop} {left : Nat} (run : Runs payload loop left bytes) :
    bytes <:+: payload := by
  induction run with
  | samples header => exact (spells_readHeader.isSuffix header).isInfix
  | passed _ isNamed isMeasured _ _ isSkipped isCounted inside =>
    have word := spells_word .sample
    have body := (word.isSuffix isMeasured).trans (word.isSuffix isNamed)
    have front := ((Reader.Spells.skip _ _).isSuffix isSkipped).trans body
    exact ((word.isSuffix isCounted).trans front).isInfix.trans inside
  | @records _ _ _ _ _ _ form _ _ isCut _ isHeader inside =>
    have rest := ((Lead.spells_header form).isSuffix isHeader).isInfix
    exact (rest.trans (isInfix_sample isCut)).trans inside
  | segments _ isCut _ isAddressed isNumbered isCounted inside =>
    have word : Reader.Spells (Reader.u32 .extendedGateway) fun value front =>
        True ∧ front = Bytes.ofNat 4 value.toNat :=
      (Reader.Spells.u32 _).mono fun _ _ same => ⟨trivial, same⟩
    have front := ((word.times 3).isSuffix isNumbered).trans ((spells_address _).isSuffix isAddressed)
    exact (((word.isSuffix isCounted).trans front).isInfix.trans (isInfix_block isCut)).trans inside
  | numbers _ isNamed isCounted inside =>
    have word := spells_word .asPath
    exact ((word.isSuffix isCounted).trans (word.isSuffix isNamed)).isInfix.trans inside
  | @next loop _ _ _ _ _ isRead inside => exact (loop.spells_item.isSuffix isRead).isInfix.trans inside

/-- No count drives a loop. Wherever a loop `Runs`, it is in the datagram, the next `Loop.item` takes a word or ends
the loop, and all counts above the length of the datagram come to the same, whether the loop keeps what it has read
when it ends early (`Reader.upTo`) or not (`Reader.times`). Whatever the count, an item is not tried more often than
there are bytes, and once. -/
theorem counts_alike {payload bytes : Bytes} {loop : Loop} {left : Nat} (run : Runs payload loop left bytes) :
    bytes <:+: payload
      ∧ (∀ value rest, loop.item bytes = .ok (value, rest) → rest.length + 4 ≤ bytes.length)
      ∧ (∀ count, payload.length < count →
          Reader.upTo count loop.item bytes = Reader.upTo (payload.length + 1) loop.item bytes
            ∧ Reader.times count loop.item bytes = Reader.times (payload.length + 1) loop.item bytes)
      ∧ ∀ count, Reader.tries loop.item count bytes ≤ payload.length + 1 := by
  have inside := run.isInfix
  have shorter : bytes.length ≤ payload.length := inside.length_le
  have onward := loop.onward_item
  refine ⟨inside, fun value rest read => loop.spells_item.length_add_le read, fun count above => ⟨?_, ?_⟩, ?_⟩
  · exact Reader.upTo_of_length_lt onward (by omega) (by omega)
  · exact Reader.times_of_length_lt onward (by omega) (by omega)
  · intro count
    exact Nat.le_trans (Reader.tries_le onward count bytes) (by omega)

/-- Two samples, a record, a segment and a number, each of which is said to be the first of 4294967295. The innermost loop
runs where one number is left, and the second sample is passed over where one record is. What is declared for the numbers
comes to what a count of 133 comes to, one more than the datagram has bytes. -/
theorem counts_alike_nested :
    let most : UInt32 := 4294967295
    let segment : Bytes := Bytes.ofNat 4 2 ++ Bytes.ofNat 4 most.toNat ++ Bytes.ofNat 4 65000
    let gateway : Bytes := List.replicate 16 0 ++ Bytes.ofNat 4 most.toNat ++ segment
    let flow : Bytes := List.replicate 28 0 ++ Bytes.ofNat 4 most.toNat
      ++ (Bytes.ofNat 4 1003 ++ Bytes.ofNat 4 gateway.length ++ gateway)
    let counters : Bytes := List.replicate 8 0 ++ Bytes.ofNat 4 most.toNat ++ List.replicate 8 0
    let overlong : Bytes := Bytes.ofNat 4 2 ++ Bytes.ofNat 4 most.toNat ++ counters
    let payload : Bytes := Bytes.ofNat 4 5 ++ List.replicate 16 0 ++ Bytes.ofNat 4 most.toNat
      ++ (Bytes.ofNat 4 1 ++ Bytes.ofNat 4 flow.length ++ flow ++ overlong)
    payload.length = 132 ∧ Runs payload .passed most.toNat (List.replicate 8 0)
      ∧ Runs payload .numbers most.toNat (Bytes.ofNat 4 65000)
      ∧ Reader.upTo most.toNat (Reader.u32 .asPath) (Bytes.ofNat 4 65000)
        = Reader.upTo 133 (Reader.u32 .asPath) (Bytes.ofNat 4 65000)
      ∧ Reader.tries (Reader.u32 .asPath) most.toNat (Bytes.ofNat 4 65000) ≤ 133 := by
  intro most segment gateway flow counters overlong payload
  have length : payload.length = 132 := by decide +kernel
  have some_left : most.toNat = 4294967293 + 1 + 1 := by decide +kernel
  have header : readHeader payload = .ok (most, payload.drop 24) := by decide +kernel
  have samples : Runs payload .samples (4294967293 + 1 + 1) (payload.drop 24) := some_left ▸ .samples header
  have cut : RawSample.read (payload.drop 24) = .ok (.framed ⟨0, 1⟩ flow, overlong) := by decide +kernel
  -- The second sample declares more bytes than there are, and its records are followed to see where it ends.
  have second : Runs payload .samples (4294967293 + 1) overlong := .next samples cut
  have named : Reader.u32 .sample overlong = .ok (2, overlong.drop 4) := by decide +kernel
  have measured : Reader.u32 .sample (overlong.drop 4) = .ok (most, counters) := by decide +kernel
  have skipped : Reader.skip .sample 8 counters = .ok ((), counters.drop 8) := by decide +kernel
  have recorded : Reader.u32 .sample (counters.drop 8) = .ok (most, List.replicate 8 0) := by decide +kernel
  have passed : Runs payload .passed most.toNat (List.replicate 8 0) :=
    .passed second named measured (by decide +kernel) rfl skipped recorded
  -- The first one has a record, a segment in that, and a number in the segment.
  have sample : SampleHeader.read .compact flow = .ok (⟨0, 0, 0, most⟩, flow.drop 32) := by decide +kernel
  have records : Runs payload .records (4294967293 + 1 + 1) (flow.drop 32) :=
    some_left ▸ .records samples cut rfl sample
  have block : Block.read (flow.drop 32) = .ok (⟨⟨0, 1003⟩, gateway⟩, []) := by decide +kernel
  have addressed : readAddress .extendedGateway gateway = .ok (none, gateway.drop 4) := by decide +kernel
  have numbered : Reader.times 3 (Reader.u32 .extendedGateway) (gateway.drop 4)
      = .ok ([0, 0, 0], gateway.drop 16) := by decide +kernel
  have counted : Reader.u32 .extendedGateway (gateway.drop 16) = .ok (most, segment) := by decide +kernel
  have segments : Runs payload .segments (4294967293 + 1 + 1) segment :=
    some_left ▸ .segments records block rfl addressed numbered counted
  have kind : Reader.u32 .asPath segment = .ok (2, segment.drop 4) := by decide +kernel
  have systems : Reader.u32 .asPath (segment.drop 4) = .ok (most, Bytes.ofNat 4 65000) := by decide +kernel
  have numbers : Runs payload .numbers most.toNat (Bytes.ofNat 4 65000) := .numbers segments kind systems
  obtain ⟨-, -, same, tried⟩ := counts_alike numbers
  refine ⟨length, passed, numbers, ?_, ?_⟩
  · have alike := (same most.toNat (by rw [length]; decide)).1
    rwa [length] at alike
  · have few := tried most.toNat
    rwa [length] at few

end FlowCollector.Sflow
