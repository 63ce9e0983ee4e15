import FlowCollector.Proofs.Address.Bytes
import FlowCollector.Proofs.Reader.Properties
import FlowCollector.Sflow.Datagram

/-!
# Samples one behind the other

A datagram is a header and a row of samples, and what comes of it is what comes of its samples in turn.
Two kinds of sample are written here: one whose declared length is its own, with any body, and one that
declares more bytes than there are, with a body whose records show where it ends. The first is cut by
its length and the second by following its records.

Following them runs over the bytes of the samples behind, so it is not evident that it stops where the
sample does. It does because the walk is `Reader.Local`: it ends in front of the same bytes whatever they
are.
-/

set_option autoImplicit false

namespace FlowCollector.Sflow

/-! ## The header -/

/-- What a header says, apart from the count of samples. None of it gets into a flow record. -/
structure DatagramHeader where
  agent : Option IpAddress
  subAgent : UInt32
  sequence : UInt32
  uptime : UInt32
  deriving DecidableEq, Repr

/-- An address behind the word that tells its kind, where `readAddress` reads it. -/
def encodeAddress : Option IpAddress → Bytes
  | none => Bytes.ofNat 4 (0 : UInt32).toNat
  | some (.v4 address) => Bytes.ofNat 4 (1 : UInt32).toNat ++ address.toBytes
  | some (.v6 address) => Bytes.ofNat 4 (2 : UInt32).toNat ++ address.toBytes

/-- A header that declares a count of samples, which `readHeader` takes off. -/
def DatagramHeader.encode (header : DatagramHeader) (count : UInt32) : Bytes :=
  Bytes.ofNat 4 supportedVersion.toNat ++ (encodeAddress header.agent
    ++ (Bytes.ofNat 4 header.subAgent.toNat ++ (Bytes.ofNat 4 header.sequence.toNat
    ++ (Bytes.ofNat 4 header.uptime.toNat ++ Bytes.ofNat 4 count.toNat))))

/-- An address is read back by `readAddress`, whatever stands behind it. -/
theorem readAddress_encode (place : Place) (address : Option IpAddress) (rest : Bytes) :
    readAddress place (encodeAddress address ++ rest) = .ok (address, rest) := by
  unfold readAddress
  match address with
  | none => exact Reader.bind_ok (Reader.u32_toNat place 0 rest)
  | some (.v4 address) =>
    rw [encodeAddress, List.append_assoc, Reader.bind_ok (Reader.u32_toNat place 1 _)]
    refine (Reader.bind_ok (Reader.take_append (show address.toBytes.length = 4 from rfl) rest)).trans ?_
    rw [IpAddress.ofV4Bytes?_toBytes]
    rfl
  | some (.v6 address) =>
    rw [encodeAddress, List.append_assoc, Reader.bind_ok (Reader.u32_toNat place 2 _)]
    refine (Reader.bind_ok (Reader.take_append address.length_toBytes rest)).trans ?_
    rw [IpAddress.ofV6Bytes?_toBytes]
    rfl

theorem readHeader_encode (header : DatagramHeader) (count : UInt32) (rest : Bytes) :
    readHeader (header.encode count ++ rest) = .ok (count, rest) := by
  unfold readHeader DatagramHeader.encode
  simp only [List.append_assoc]
  rw [Reader.bind_ok (Reader.u32_toNat _ supportedVersion _), if_neg (by simp),
    Reader.bind_ok (readAddress_encode ..), Reader.bind_ok (Reader.u32_toNat _ header.subAgent _),
    Reader.bind_ok (Reader.u32_toNat _ header.sequence _),
    Reader.bind_ok (Reader.u32_toNat _ header.uptime _)]
  exact Reader.u32_toNat _ count rest

/-! ## Following the records of a sample -/

namespace Sample

theorem local_walk (fixed : Nat) : Reader.Local (walk fixed) := by
  have record : Reader.Local skipRecord :=
    (Reader.Local.u32 _).bind fun _ => (Reader.Local.u32 _).bind fun _ => Reader.Local.skip _ _
  refine (Reader.Local.skip _ _).bind fun _ => (Reader.Local.u32 _).bind fun count => ?_
  exact (record.times _).bind fun _ => Reader.Local.pure ()

theorem walk_eq_ok {fixed : Nat} {bytes rest : Bytes} (h : walk fixed bytes = .ok ((), rest)) :
    fixed < bytes.length := by
  obtain ⟨_, middle, skipped, counted⟩ := Reader.exists_of_bind_ok h
  obtain ⟨_, _, word, -⟩ := Reader.exists_of_bind_ok counted
  obtain ⟨enough, rfl⟩ := Reader.skip_eq_ok skipped
  obtain ⟨left, -, -⟩ := Reader.u32_eq_ok word
  rw [List.length_drop] at left
  omega

/-- A body that `structuralLength?` follows to its end is followed to that end, and no further, with anything behind
it. -/
theorem structuralLength?_append {format : Format} {body : Bytes}
    (whole : structuralLength? format body = some body.length) (behind : Bytes) :
    structuralLength? format (body ++ behind) = some body.length := by
  unfold structuralLength? at whole ⊢
  cases front : fixedLength? format with
  | none =>
    rw [front] at whole
    cases whole
  | some fixed =>
    rw [front] at whole
    cases walked : (walk fixed).run body with
    | error error =>
      simp only [Option.bind_eq_bind, Option.bind_some, walked] at whole
      cases whole
    | ok found =>
      obtain ⟨⟨⟩, rest⟩ := found
      simp only [Option.bind_eq_bind, Option.bind_some, walked, Option.some.injEq] at whole
      have longer := walk_eq_ok walked
      have done : rest = [] := List.length_eq_zero_iff.1 (by omega)
      have further : (walk fixed).run (body ++ behind) = .ok ((), rest ++ behind) :=
        local_walk fixed body () rest walked behind
      simp only [Option.bind_eq_bind, Option.bind_some, further, done, List.nil_append,
        List.length_append, Nat.add_sub_cancel]

end Sample

/-! ## The samples -/

/-- A sample as it stands in a datagram, by whether the length it declares is its own. -/
inductive WrittenSample where
  /-- A sample that declares the length it has. -/
  | framed (format : UInt32) (body : Bytes)
  /-- A sample that declares more bytes than there are. Its body is what its records show of it. -/
  | overlong (format declared : UInt32) (body : Bytes)
  deriving DecidableEq, Repr

namespace WrittenSample

/-- The bytes of a sample, with its format and the length it declares in front. -/
def encode : WrittenSample → Bytes
  | framed format body => Bytes.ofNat 4 format.toNat ++ (Bytes.ofNat 4 body.length ++ body)
  | overlong format declared body =>
    Bytes.ofNat 4 format.toNat ++ (Bytes.ofNat 4 declared.toNat ++ body)

def encodeAll (samples : List WrittenSample) : Bytes := samples.flatMap encode

/-- True of a sample that can be told from the `behind` bytes that follow it. The body of an overlong one is followed
by its records exactly to its end (`Sample.structuralLength?`). -/
def Fits (behind : Nat) : WrittenSample → Prop
  | framed _ body => body.length < UInt32.size
  | overlong format declared body =>
    Sample.structuralLength? (.ofWord format) body = some body.length
      ∧ body.length + behind < declared.toNat

/-- True of a row of samples each of which `Fits` before those that follow it. -/
def AllFit (behind : Nat) : List WrittenSample → Prop
  | [] => True
  | sample :: others => sample.Fits ((encodeAll others).length + behind) ∧ AllFit behind others

instance (behind : Nat) (sample : WrittenSample) : Decidable (sample.Fits behind) := by
  cases sample <;> unfold Fits <;> infer_instance

instance decidableAllFit (behind : Nat) : (samples : List WrittenSample) →
    Decidable (AllFit behind samples)
  | [] => isTrue trivial
  | sample :: others =>
    have := decidableAllFit behind others
    inferInstanceAs (Decidable (sample.Fits ((encodeAll others).length + behind)
      ∧ AllFit behind others))

/-- What a sample of a format adds to the result of its datagram: what `FlowSample.decode` has of a flow sample, and
nothing for any other. -/
def ofBody (exporter : IpAddress) (timeReceived : UInt64) (format : UInt32) (body : Bytes) : Decoded :=
  if format = 1 then (FlowSample.decode .compact exporter timeReceived body).toDecoded
  else if format = 3 then (FlowSample.decode .expanded exporter timeReceived body).toDecoded
  else .nothing

/-- What a sample adds: one error if it is overlong, else what its format and its body come to by `ofBody`. -/
def contribution (exporter : IpAddress) (timeReceived : UInt64) (behind : Nat) :
    WrittenSample → Decoded
  | framed format body => ofBody exporter timeReceived format body
  | overlong _ declared body =>
    .ofError (.malformedLength .sample declared.toNat (body.length + behind))

/-- The flow records that a sample adds, which unlike its errors do not hang on what is behind it. -/
def flows (exporter : IpAddress) (timeReceived : UInt64) : WrittenSample → List FlowRecord
  | framed format body => (ofBody exporter timeReceived format body).records
  | overlong _ _ _ => []

/-- What the samples of a row add, one `contribution` after another. -/
def contributions (exporter : IpAddress) (timeReceived : UInt64) (behind : Nat) :
    List WrittenSample → Decoded
  | [] => .nothing
  | sample :: others =>
    sample.contribution exporter timeReceived ((encodeAll others).length + behind)
      ++ contributions exporter timeReceived behind others

/-- A sample as `RawSample.read` cuts it out of the row. -/
def cut (behind : Nat) : WrittenSample → RawSample
  | framed format body => .framed (.ofWord format) body
  | overlong _ declared body => .overlong declared.toNat (body.length + behind)

/-- A row as it is cut, each sample with what is behind it. -/
def cutAll (behind : Nat) : List WrittenSample → List RawSample
  | [] => []
  | sample :: others => sample.cut ((encodeAll others).length + behind) :: cutAll behind others

theorem read_encode {sample : WrittenSample} {behind : Bytes} (fits : sample.Fits behind.length) :
    RawSample.read (sample.encode ++ behind) = .ok (sample.cut behind.length, behind) := by
  unfold RawSample.read
  cases sample with
  | framed format body =>
    have declared : (UInt32.ofNat body.length).toNat = body.length :=
      UInt32.toNat_ofNat_of_lt' fits
    simp only [encode, List.append_assoc]
    rw [Reader.bind_ok (Reader.u32_toNat _ format _), Reader.bind_ok (Reader.u32_ofNat _ fits _), declared,
      if_pos (by simp)]
    simp [cut]
  | overlong format declared body =>
    obtain ⟨whole, more⟩ := fits
    -- The walk starts with the bytes behind in front of it, and still ends where the body does.
    simp only [encode, List.append_assoc]
    rw [Reader.bind_ok (Reader.u32_toNat _ format _), Reader.bind_ok (Reader.u32_toNat _ declared _),
      if_neg (by rw [List.length_append]; omega), Sample.structuralLength?_append whole]
    simp [cut]

/-- The word of a format is its enterprise and its number, so two words are the formats of flow samples, and `form?`
knows no other. -/
theorem form?_ofWord (word : UInt32) :
    RawSample.form? (.ofWord word)
      = if word = 1 then some .compact else if word = 3 then some .expanded else none := by
  by_cases compact : word = 1
  · rw [compact]
    rfl
  · by_cases expanded : word = 3
    · rw [expanded]
      rfl
    · rw [if_neg compact, if_neg expanded]
      unfold RawSample.form?
      by_cases vendor : (Format.ofWord word).enterprise ≠ 0
      · rw [if_pos vendor]
      · -- Without an enterprise the word is its number.
        have standard : word.toNat / 4096 = 0 := Decidable.not_not.1 vendor
        have number : (Format.ofWord word).number = word.toNat := by
          show word.toNat % 4096 = word.toNat
          omega
        have notCompact : word.toNat ≠ 1 := fun same => compact (UInt32.toNat_inj.1 same)
        have notExpanded : word.toNat ≠ 3 := fun same => expanded (UInt32.toNat_inj.1 same)
        rw [if_neg vendor, number, if_neg notCompact, if_neg notExpanded]

theorem decode_cut (sample : WrittenSample) (exporter : IpAddress) (timeReceived : UInt64)
    (behind : Nat) :
    (sample.cut behind).decode exporter timeReceived
      = sample.contribution exporter timeReceived behind := by
  cases sample with
  | overlong format declared body => rfl
  | framed format body =>
    simp only [cut, RawSample.decode, form?_ofWord, contribution, ofBody]
    by_cases compact : format = 1
    · simp only [if_pos compact]
    · by_cases expanded : format = 3
      · simp only [if_neg compact, if_pos expanded]
      · simp only [if_neg compact, if_neg expanded]

theorem upTo_encodeAll {samples : List WrittenSample} {behind : Bytes}
    (fit : AllFit behind.length samples) :
    Reader.upTo samples.length RawSample.read (encodeAll samples ++ behind)
      = (cutAll behind.length samples, none) := by
  induction samples with
  | nil => rfl
  | cons sample others ih =>
    obtain ⟨own, rest⟩ := fit
    rw [← List.length_append] at own
    have read := read_encode own
    rw [← List.append_assoc] at read
    show Reader.upTo (others.length + 1) RawSample.read ((sample.encode ++ encodeAll others) ++ behind)
      = _
    simp only [Reader.upTo, read, ih rest, cutAll, List.length_append]

theorem foldr_decode_cutAll (samples : List WrittenSample) (exporter : IpAddress)
    (timeReceived : UInt64) (behind : Nat) :
    ((cutAll behind samples).map (RawSample.decode exporter timeReceived)).foldr (· ++ ·) .nothing
      = contributions exporter timeReceived behind samples := by
  induction samples with
  | nil => rfl
  | cons sample others ih =>
    simp only [cutAll, List.map_cons, List.foldr_cons, ih, contributions, decode_cut]

theorem records_contribution (sample : WrittenSample) (exporter : IpAddress) (timeReceived : UInt64)
    (behind : Nat) :
    (sample.contribution exporter timeReceived behind).records = sample.flows exporter timeReceived := by
  cases sample <;> rfl

theorem records_contributions (samples : List WrittenSample) (exporter : IpAddress)
    (timeReceived : UInt64) (behind : Nat) :
    (contributions exporter timeReceived behind samples).records
      = samples.flatMap (flows exporter timeReceived) := by
  induction samples with
  | nil => rfl
  | cons sample others ih =>
    rw [contributions, Decoded.records_append, records_contribution, ih, List.flatMap_cons]

end WrittenSample

/-! ## A flow sample that fails -/

namespace FlowSample

theorem failsShort_header (form : Form) : Reader.FailsShort (SampleHeader.read form) := by
  have word : Reader.FailsShort (Reader.u32 .flowSample) := Reader.FailsShort.u32 _
  unfold SampleHeader.read
  refine word.bind fun _ => (Reader.FailsShort.skip _ _).bind fun _ => ?_
  refine word.bind fun _ => word.bind fun _ => word.bind fun _ => ?_
  cases form with
  | compact =>
    exact word.bind fun _ => word.bind fun _ => word.bind fun _ => Reader.FailsShort.pure _
  | expanded =>
    refine word.bind fun _ => word.bind fun _ => word.bind fun _ => ?_
    exact word.bind fun _ => word.bind fun _ => Reader.FailsShort.pure _

theorem failsShort_block : Reader.FailsShort Block.read := by
  refine (Reader.FailsShort.u32 _).bind fun _ => (Reader.FailsShort.u32 _).bind fun _ => ?_
  exact (Reader.FailsShort.take _ _).bind fun _ => Reader.FailsShort.pure _

/-- A flow sample is lost as a whole for want of bytes only: those of its header, or of the row of its records. -/
theorem decode_failsShort {form : Form} {exporter : IpAddress} {timeReceived : UInt64} {body : Bytes}
    {error : DecodeError} (failed : (decode form exporter timeReceived body).outcome = .error error) :
    ∃ place needed available, error = .truncated place needed available := by
  unfold decode at failed
  cases header : (SampleHeader.read form).run body with
  | error own =>
    rw [header] at failed
    obtain rfl := Except.error.inj failed
    exact failsShort_header form body own header
  | ok found =>
    obtain ⟨header, rest⟩ := found
    simp only [header] at failed
    split at failed
    · rename_i own ended
      obtain rfl := Except.error.inj failed
      exact failsShort_block.upTo _ _ ended
    · split at failed
      · cases failed
      · cases failed

end FlowSample

/-! ## The datagram -/

/-- A datagram of samples, with the right count in its header, and what stands behind the last of them. -/
def DatagramHeader.datagram (header : DatagramHeader) (samples : List WrittenSample)
    (behind : Bytes) : Bytes :=
  header.encode (.ofNat samples.length) ++ (WrittenSample.encodeAll samples ++ behind)

open WrittenSample

/-- A `datagram` gives what its samples give, each by itself and in their order. So the flow records are those of the
samples whose length is right (`flows`), whatever is wrong with the others; a sample that is overlong costs one error,
and so does a flow sample that fails, behind the errors of its records. -/
theorem decode_datagram (header : DatagramHeader) (samples : List WrittenSample) (behind : Bytes)
    (exporter : IpAddress) (timeReceived : UInt64) (counted : samples.length < UInt32.size)
    (fit : AllFit behind.length samples) :
    decode exporter timeReceived (header.datagram samples behind)
        = contributions exporter timeReceived behind.length samples
      ∧ (decode exporter timeReceived (header.datagram samples behind)).records
        = samples.flatMap (flows exporter timeReceived)
      ∧ ∀ form body error, (FlowSample.decode form exporter timeReceived body).outcome = .error error →
        ∃ needed available, (FlowSample.decode form exporter timeReceived body).toDecoded
          = .ofErrors ((FlowSample.decode form exporter timeReceived body).errors
            ++ [.malformedLength .flowSample needed available]) := by
  have count : (UInt32.ofNat samples.length).toNat = samples.length :=
    UInt32.toNat_ofNat_of_lt' counted
  have start := readHeader_encode header (.ofNat samples.length) (encodeAll samples ++ behind)
  have decoded : decode exporter timeReceived (header.datagram samples behind)
      = contributions exporter timeReceived behind.length samples := by
    unfold decode DatagramHeader.datagram
    simp only [StateT.run, start, count, upTo_encodeAll fit]
    exact foldr_decode_cutAll samples exporter timeReceived behind.length
  refine ⟨decoded, ?_, ?_⟩
  · rw [decoded, records_contributions]
  · intro form body error failed
    obtain ⟨place, needed, available, rfl⟩ := FlowSample.decode_failsShort failed
    refine ⟨needed, available, ?_⟩
    simp only [FlowSample.Result.toDecoded, failed]
    rfl

/-- Four samples: a counter sample that declares 2000 bytes, a flow sample cut off in its header, a sample
of a vendor, and a flow sample of one packet. The packet is decoded, and each of the first two costs one
error. -/
theorem decode_datagram_last_of_four :
    let header : DatagramHeader := ⟨some (.v4 ⟨192, 0, 2, 1⟩), 0, 7, 1000⟩
    let counters : Bytes := List.replicate 8 0 ++ Bytes.ofNat 4 1
      ++ (Bytes.ofNat 4 1 ++ Bytes.ofNat 4 4 ++ [1, 2, 3, 4])
    let packet : Bytes := Bytes.ofNat 4 90 ++ Bytes.ofNat 4 17 ++ [10, 0, 0, 1] ++ [10, 0, 0, 2]
      ++ Bytes.ofNat 4 53 ++ Bytes.ofNat 4 5353 ++ Bytes.ofNat 4 0 ++ Bytes.ofNat 4 0
    let flow : Bytes := List.replicate 8 0 ++ Bytes.ofNat 4 512 ++ List.replicate 16 0
      ++ Bytes.ofNat 4 1 ++ (Bytes.ofNat 4 3 ++ Bytes.ofNat 4 packet.length ++ packet)
    let samples : List WrittenSample :=
      [.overlong 2 2000 counters, .framed 1 [0, 0, 0, 1], .framed 4097 [1, 2, 3], .framed 1 flow]
    let exporter : IpAddress := .v4 ⟨192, 0, 2, 1⟩
    let decoded := decode exporter 0 (header.datagram samples [])
    samples.length < UInt32.size ∧ AllFit 0 samples
      ∧ decoded.records = samples.flatMap (flows exporter 0)
      ∧ decoded.records.map (fun record => (record.bytes, record.sourcePort, record.samplingRate))
        = [(90, 53, 512)]
      ∧ decoded.errors
        = [.malformedLength .sample 2000 (24 + 103), .malformedLength .flowSample 4 0]
      ∧ ∃ needed available, (FlowSample.decode .compact exporter 0 [0, 0, 0, 1]).toDecoded
        = .ofErrors [.malformedLength .flowSample needed available] := by
  intro header counters packet flow samples exporter decoded
  have counted : samples.length < UInt32.size := by decide
  have fit : AllFit 0 samples := by decide
  obtain ⟨parts, records, failure⟩ := decode_datagram header samples [] exporter 0 counted fit
  refine ⟨counted, fit, records, ?_, ?_, ?_⟩
  · rw [records]
    decide +kernel
  · exact (congrArg Decoded.errors parts).trans (by decide +kernel)
  · exact failure .compact [0, 0, 0, 1] (.truncated .flowSample 4 0) rfl

end FlowCollector.Sflow
