import FlowCollector.Proofs.Fold
import FlowCollector.Proofs.Sflow.Records

/-!
# The way of a packet

Two kinds of record say where a sampled packet goes: that of a router knows the next hop and the masks, and that of a
gateway knows a next hop as well, and the path of autonomous systems. A sample can have any number of each, in any order
and among other records, and some of them may be too short to be read.

What is left of them is told from the ones that are written as they should be. The masks and the systems are those of
the last record of their kind. The next hop is not: a router that knows one comes before every gateway, wherever it
stands, and among gateways the first that knows one is not replaced.
-/

set_option autoImplicit false

namespace FlowCollector

/-- What a flow record says of the way of its packets: the members that routers and gateways fill in. -/
structure FlowRecord.RoutePart where
  nextHop : Option IpAddress
  sourceMask : UInt8
  destinationMask : UInt8
  sourceAs : UInt32
  destinationAs : UInt32
  deriving DecidableEq, Repr

def FlowRecord.routePart (record : FlowRecord) : RoutePart where
  nextHop := record.nextHop
  sourceMask := record.sourceMask
  destinationMask := record.destinationMask
  sourceAs := record.sourceAs
  destinationAs := record.destinationAs

theorem FlowRecord.SameApart.routePart {record other : FlowRecord} (same : record.SameApart other) :
    other.routePart = record.routePart := by
  rw [SameApart] at same
  rw [same]
  rfl

theorem FlowRecord.routePart_inferEtherType (record : FlowRecord) :
    record.inferEtherType.routePart = record.routePart := by
  obtain ⟨etherType, inferred⟩ := record.inferEtherType_frame
  rw [inferred]
  rfl

namespace Sflow

open WrittenBlock (step)

/-! ## The records as they are written -/

/-- What a router says: where it sends the packet, if anywhere, and how much of each address it goes by. -/
structure Router where
  nextHop : Option IpAddress
  sourceMask : UInt32
  destinationMask : UInt32
  deriving DecidableEq, Repr

/-- A segment of a path: its kind, and the autonomous systems in it, of which there may be none. -/
structure PathSegment where
  kind : UInt32
  systems : List UInt32
  counted : systems.length < UInt32.size
  deriving DecidableEq, Repr

/-- What a gateway says: where it sends the packet, if anywhere, and through which systems, segment by segment. -/
structure Gateway where
  nextHop : Option IpAddress
  routerAs : UInt32
  sourceAs : UInt32
  sourcePeerAs : UInt32
  segments : List PathSegment
  counted : segments.length < UInt32.size
  deriving DecidableEq, Repr

def Router.encode (router : Router) : Bytes :=
  encodeAddress router.nextHop ++ spell [router.sourceMask, router.destinationMask]

def PathSegment.encode (segment : PathSegment) : Bytes :=
  Bytes.ofNat 4 segment.kind.toNat ++ (Bytes.ofNat 4 segment.systems.length ++ spell segment.systems)

def Gateway.encode (gateway : Gateway) : Bytes :=
  encodeAddress gateway.nextHop ++ (spell [gateway.routerAs, gateway.sourceAs, gateway.sourcePeerAs]
    ++ (Bytes.ofNat 4 gateway.segments.length ++ gateway.segments.flatMap PathSegment.encode))

/-- The systems of all segments, one behind the other, whatever the kinds of the segments. -/
def Gateway.path (gateway : Gateway) : List UInt32 := gateway.segments.flatMap PathSegment.systems

/-- A record about the way of the packet, of a `Router` or a `Gateway`. -/
inductive RouteRecord where
  | router (router : Router)
  | gateway (gateway : Gateway)
  deriving DecidableEq, Repr

namespace RouteRecord

def format : RouteRecord → UInt32
  | router _ => 1002
  | gateway _ => 1003

def encode : RouteRecord → Bytes
  | router own => own.encode
  | gateway own => own.encode

def router? : RouteRecord → Option Router
  | router own => some own
  | gateway _ => none

def gateway? : RouteRecord → Option Gateway
  | router _ => none
  | gateway own => some own

/-- What the record is read to by `SampleRecord.read`. -/
def meaning : RouteRecord → SampleRecord
  | router own => .router own.nextHop own.sourceMask own.destinationMask
  | gateway own => .gateway own.nextHop own.sourceAs own.path

end RouteRecord

/-- True of a record of a row that holds this one, so that it is read to its `meaning`. Bytes behind it, still in the
record of the row, are nothing. -/
def WrittenBlock.Holds (block : WrittenBlock) (record : RouteRecord) : Prop :=
  block.format = record.format ∧ ∃ rest, block.body = record.encode ++ rest

/-- The records of a row that are about the way, in order, each held by its block (`Holds`). All others are left out:
those about something else, and those with the format of a router or a gateway that are not written as one. -/
inductive Routed : List WrittenBlock → List RouteRecord → Prop
  | nil : Routed [] []
  | route {block : WrittenBlock} {record : RouteRecord} {blocks : List WrittenBlock} {records : List RouteRecord}
      (holds : block.Holds record) (others : Routed blocks records) : Routed (block :: blocks) (record :: records)
  | other {block : WrittenBlock} {blocks : List WrittenBlock} {records : List RouteRecord}
      (silent : ∀ record, ¬ block.Holds record) (others : Routed blocks records) : Routed (block :: blocks) records

/-! ## Reading them -/

theorem Router.read_encode (router : Router) (rest : Bytes) :
    SampleRecord.readRouter (router.encode ++ rest)
      = .ok (.router router.nextHop router.sourceMask router.destinationMask, rest) := by
  unfold SampleRecord.readRouter encode
  rw [List.append_assoc, Reader.bind_ok (readAddress_encode ..), Reader.bind_ok (read_word ..),
    Reader.bind_ok (read_word ..)]
  rfl

theorem PathSegment.read_encode (segment : PathSegment) (rest : Bytes) :
    SampleRecord.readPathSegment (segment.encode ++ rest) = .ok (segment.systems, rest) := by
  have back : (UInt32.ofNat segment.systems.length).toNat = segment.systems.length :=
    UInt32.toNat_ofNat_of_lt' segment.counted
  unfold SampleRecord.readPathSegment encode
  rw [List.append_assoc, List.append_assoc, Reader.bind_ok (Reader.u32_toNat ..),
    Reader.bind_ok (Reader.u32_ofNat _ segment.counted _), back]
  exact Reader.times_written (fun system _ => Reader.u32_toNat .asPath system) rest

theorem Gateway.read_encode (gateway : Gateway) (rest : Bytes) :
    SampleRecord.readGateway (gateway.encode ++ rest)
      = .ok (.gateway gateway.nextHop gateway.sourceAs gateway.path, rest) := by
  have back : (UInt32.ofNat gateway.segments.length).toNat = gateway.segments.length :=
    UInt32.toNat_ofNat_of_lt' gateway.counted
  have segments := Reader.times_meaning PathSegment.systems
    (fun segment (_ : segment ∈ gateway.segments) => segment.read_encode) rest
  unfold SampleRecord.readGateway encode
  simp only [List.append_assoc]
  rw [Reader.bind_ok (readAddress_encode ..), Reader.bind_ok (read_word ..), Reader.bind_ok (read_word ..),
    Reader.bind_ok (read_word ..)]
  show (Reader.u32 _ >>= _) (Bytes.ofNat 4 gateway.segments.length ++ _) = _
  rw [Reader.bind_ok (Reader.u32_ofNat _ gateway.counted _), back, Reader.bind_ok segments, ← List.flatMap_def]
  rfl

theorem RouteRecord.read_encode (record : RouteRecord) (rest : Bytes) :
    SampleRecord.read (.ofWord record.format) (record.encode ++ rest) = .ok (record.meaning, rest) := by
  cases record with
  | router own =>
    have reader : SampleRecord.read (.ofWord 1002) = SampleRecord.readRouter := rfl
    rw [format, reader]
    exact own.read_encode rest
  | gateway own =>
    have reader : SampleRecord.read (.ofWord 1003) = SampleRecord.readGateway := rfl
    rw [format, reader]
    exact own.read_encode rest

theorem WrittenBlock.said_of_holds {block : WrittenBlock} {record : RouteRecord} (holds : block.Holds record) :
    block.said = .ok record.meaning := by
  obtain ⟨format, rest, body⟩ := holds
  apply said_of_read
  rw [format, body]
  exact record.read_encode rest

/-! ## What was read as one of them was written as one -/

theorem spells_address (place : Place) :
    Reader.Spells (readAddress place) fun address front => front = encodeAddress address := by
  refine (Reader.Spells.u32 place).bind fun kind _ named => ?_
  subst named
  split
  · rename_i zero
    rw [zero]
    exact .pure rfl
  · split
    · rename_i one
      rw [one]
      refine (Reader.Spells.take place 4).bind fun bytes _ taken => .pure ?_
      obtain ⟨width, rfl⟩ := taken
      obtain ⟨address, spelled, same⟩ := IpAddress.exists_ofV4Bytes? width
      rw [spelled, encodeAddress, same, List.append_nil]
    · split
      · rename_i two
        rw [two]
        refine (Reader.Spells.take place 16).bind fun bytes _ taken => .pure ?_
        obtain ⟨width, rfl⟩ := taken
        obtain ⟨address, spelled, same⟩ := IpAddress.exists_ofV6Bytes? width
        rw [spelled, encodeAddress, same, List.append_nil]
      · exact .fail _

theorem spells_router :
    Reader.Spells SampleRecord.readRouter fun _ front => ∃ router : Router, front = router.encode := by
  have word := Reader.Spells.u32 .extendedRouter
  refine (spells_address _).bind fun nextHop _ addressed => ?_
  refine word.bind fun sourceMask _ first => word.bind fun destinationMask _ second => .pure ?_
  subst addressed first second
  exact ⟨⟨nextHop, sourceMask, destinationMask⟩, by simp [Router.encode, spell]⟩

theorem spells_pathSegment :
    Reader.Spells SampleRecord.readPathSegment fun systems front =>
      ∃ segment : PathSegment, True ∧ systems = segment.systems ∧ front = segment.encode := by
  have word := Reader.Spells.u32 .asPath
  have system : Reader.Spells (Reader.u32 .asPath) fun value front => True ∧ front = Bytes.ofNat 4 value.toNat :=
    word.mono fun _ _ same => ⟨trivial, same⟩
  refine word.bind fun kind _ named => word.bind fun length _ measured => (system.times _).mono ?_
  rintro systems _ ⟨counted, -, rfl⟩
  subst named measured
  refine ⟨⟨kind, systems, counted ▸ length.toNat_lt⟩, trivial, rfl, ?_⟩
  simp only [PathSegment.encode, counted]
  rfl

theorem spells_gateway :
    Reader.Spells SampleRecord.readGateway fun _ front => ∃ gateway : Gateway, front = gateway.encode := by
  have word := Reader.Spells.u32 .extendedGateway
  refine (spells_address _).bind fun nextHop _ addressed => ?_
  refine word.bind fun routerAs _ first => word.bind fun sourceAs _ second => word.bind fun sourcePeerAs _ third => ?_
  refine word.bind fun count _ fourth => (spells_pathSegment.times_meaning _).bind fun _ _ path => .pure ?_
  subst addressed first second third fourth
  obtain ⟨segments, counted, -, -, rfl⟩ := path
  refine ⟨⟨nextHop, routerAs, sourceAs, sourcePeerAs, segments, counted ▸ count.toNat_lt⟩, ?_⟩
  simp [Gateway.encode, spell, counted]

/-- True of what is said of the way of the packet, which is all that changes `RoutePart`. -/
def SampleRecord.isRoute : SampleRecord → Bool
  | .router .. | .gateway .. => true
  | .rawHeader .. | .sampledIp .. | .ignored => false

theorem SampleRecord.gives_readSampledIp (place : Place) (etherType : EtherType) :
    Reader.Gives (readSampledIp place etherType) fun said => said.isRoute = false := by
  unfold readSampledIp
  repeat refine .skip fun _ => ?_
  exact .pure rfl

theorem SampleRecord.gives_readRawHeader : Reader.Gives readRawHeader fun said => said.isRoute = false := by
  unfold readRawHeader
  repeat refine .skip fun _ => ?_
  exact .pure rfl

theorem WrittenBlock.exists_holds {block : WrittenBlock} {said : SampleRecord} (read : block.said = .ok said)
    (route : said.isRoute = true) : ∃ record, block.Holds record := by
  obtain ⟨rest, found⟩ := WrittenBlock.exists_read_of_ok read
  have other {reader : Reader SampleRecord} (gives : reader.Gives fun said => said.isRoute = false)
      (found : reader block.body = .ok (said, rest)) : ∃ record, block.Holds record := by
    rw [gives _ _ _ found] at route
    cases route
  -- A word without an enterprise is its number.
  have word (number : UInt32) (standard : block.format.toNat / 4096 = 0)
      (named : block.format.toNat % 4096 = number.toNat) : block.format = number := by
    apply UInt32.toNat_inj.1
    omega
  unfold SampleRecord.read at found
  split at found
  · exact other (.pure rfl) found
  · rename_i standard
    have standard : block.format.toNat / 4096 = 0 := Decidable.not_not.1 standard
    split at found
    · exact other SampleRecord.gives_readRawHeader found
    · exact other (SampleRecord.gives_readSampledIp _ _) found
    · exact other (SampleRecord.gives_readSampledIp _ _) found
    · rename_i named
      obtain ⟨_, ⟨router, rfl⟩, same⟩ := spells_router _ _ _ found
      exact ⟨.router router, word 1002 standard named, _, same⟩
    · rename_i named
      obtain ⟨_, ⟨gateway, rfl⟩, same⟩ := spells_gateway _ _ _ found
      exact ⟨.gateway gateway, word 1003 standard named, _, same⟩
    · exact other (.pure rfl) found

/-! ## What one record changes -/

/-- What is known of the way behind a record, by the same rules as `SampleRecord.apply`. -/
def RouteRecord.add (known : FlowRecord.RoutePart) : RouteRecord → FlowRecord.RoutePart
  | router own =>
    { known with
      nextHop := own.nextHop.or known.nextHop
      sourceMask := own.sourceMask.toUInt8
      destinationMask := own.destinationMask.toUInt8 }
  | gateway own =>
    { known with
      nextHop := known.nextHop.or own.nextHop
      sourceAs := own.sourceAs
      destinationAs := own.path.getLastD 0 }

theorem routePart_apply {said : SampleRecord} (other : said.isRoute = false) (flow : FlowRecord) :
    (said.apply flow).routePart = flow.routePart := by
  cases said with
  | rawHeader headerProtocol frameLength header =>
    simp only [SampleRecord.apply]
    split
    · exact (FlowRecord.sameApart_withFrame _ header).routePart
    · split
      · exact (FlowRecord.sameApart_withPacket _ .ipv4 header).routePart
      · split
        · exact (FlowRecord.sameApart_withPacket _ .ipv6 header).routePart
        · rfl
  | sampledIp fields => rfl
  | router | gateway => cases other
  | ignored => rfl

theorem routePart_step_of_holds {block : WrittenBlock} {record : RouteRecord} (holds : block.Holds record)
    (flow : FlowRecord) : (step flow block).routePart = record.add flow.routePart := by
  rw [WrittenBlock.step_of_ok (WrittenBlock.said_of_holds holds)]
  cases record with
  | router own =>
    simp only [RouteRecord.meaning, SampleRecord.apply, RouteRecord.add, FlowRecord.routePart]
    cases own.nextHop <;> rfl
  | gateway own =>
    simp only [RouteRecord.meaning, SampleRecord.apply, RouteRecord.add, FlowRecord.routePart]
    cases flow.nextHop <;> rfl

theorem routePart_step_of_silent {block : WrittenBlock} (silent : ∀ record, ¬ block.Holds record) (flow : FlowRecord) :
    (step flow block).routePart = flow.routePart := by
  cases read : block.said with
  | error error => rw [WrittenBlock.step_of_error read]
  | ok said =>
    rw [WrittenBlock.step_of_ok read]
    apply routePart_apply
    cases route : said.isRoute with
    | false => rfl
    | true =>
      obtain ⟨record, holds⟩ := WrittenBlock.exists_holds read route
      exact absurd holds (silent record)

/-! ## What all of them leave -/

theorem exists_routed (blocks : List WrittenBlock) : ∃ records, Routed blocks records := by
  induction blocks with
  | nil => exact ⟨[], .nil⟩
  | cons block others ih =>
    obtain ⟨records, routed⟩ := ih
    by_cases known : ∃ record, block.Holds record
    · obtain ⟨record, holds⟩ := known
      exact ⟨record :: records, .route holds routed⟩
    · exact ⟨records, .other (fun record holds => known ⟨record, holds⟩) routed⟩

theorem Routed.routePart_foldl {blocks : List WrittenBlock} {records : List RouteRecord} (routed : Routed blocks records)
    (flow : FlowRecord) : (blocks.foldl step flow).routePart = records.foldl RouteRecord.add flow.routePart := by
  induction routed generalizing flow with
  | nil => rfl
  | route holds _ ih => rw [List.foldl_cons, ih, List.foldl_cons, routePart_step_of_holds holds]
  | other silent _ ih => rw [List.foldl_cons, ih, routePart_step_of_silent silent]

/-- What a flow record says of the way after these records, in terms of the routers and the gateways apart. -/
structure FollowsRoute (routers : List Router) (gateways : List Gateway) (flow : FlowRecord) : Prop where
  /-- The last router that knows one, else the first gateway that does. The order between the two kinds is not
  told. -/
  nextHop : flow.nextHop = (routers.filterMap Router.nextHop).getLast?.or (gateways.filterMap Gateway.nextHop).head?
  sourceMask : flow.sourceMask.toNat = (routers.getLast?.map fun router => router.sourceMask.toNat % 256).getD 0
  destinationMask :
    flow.destinationMask.toNat = (routers.getLast?.map fun router => router.destinationMask.toNat % 256).getD 0
  sourceAs : flow.sourceAs = (gateways.getLast?.map Gateway.sourceAs).getD 0
  destinationAs : flow.destinationAs = (gateways.getLast?.map fun gateway => gateway.path.getLastD 0).getD 0

theorem followsRoute_of_routePart {flow blank : FlowRecord} {records : List RouteRecord}
    (unknown : blank.routePart = ⟨none, 0, 0, 0, 0⟩)
    (added : flow.routePart = records.foldl RouteRecord.add blank.routePart) :
    FollowsRoute (records.filterMap RouteRecord.router?) (records.filterMap RouteRecord.gateway?) flow := by
  rw [unknown] at added
  -- Each member apart from the next hop is told by the records of one kind, and by each of them.
  have last {α β : Type} (look : FlowRecord.RoutePart → β) (kind? : RouteRecord → Option α) (told : α → β)
      (each : ∀ known record, look (RouteRecord.add known record) = ((kind? record).map told).getD (look known)) :
      look flow.routePart = ((records.filterMap kind?).getLast?.map told).getD (look ⟨none, 0, 0, 0, 0⟩) := by
    rw [added, foldl_last look each, ← List.getLast?_map, List.map_filterMap]
  have preferred : ∀ (known : FlowRecord.RoutePart) (record : RouteRecord),
      (RouteRecord.add known record).nextHop
        = (record.router?.bind Router.nextHop).or (known.nextHop.or (record.gateway?.bind Gateway.nextHop)) := by
    intro known record
    cases record with
    | router own => simp [RouteRecord.add, RouteRecord.router?, RouteRecord.gateway?]
    | gateway own => simp [RouteRecord.add, RouteRecord.router?, RouteRecord.gateway?]
  refine ⟨?_, ?_, ?_, ?_, ?_⟩
  · rw [List.filterMap_filterMap, List.filterMap_filterMap]
    exact (congrArg FlowRecord.RoutePart.nextHop added).trans
      (foldl_preferred FlowRecord.RoutePart.nextHop preferred ⟨none, 0, 0, 0, 0⟩ records)
  · refine last (·.sourceMask.toNat) RouteRecord.router? (·.sourceMask.toNat % 256) fun known record => ?_
    cases record <;> simp [RouteRecord.add, RouteRecord.router?]
  · refine last (·.destinationMask.toNat) RouteRecord.router? (·.destinationMask.toNat % 256) fun known record => ?_
    cases record <;> simp [RouteRecord.add, RouteRecord.router?]
  · refine last (·.sourceAs) RouteRecord.gateway? Gateway.sourceAs fun known record => ?_
    cases record <;> rfl
  · refine last (·.destinationAs) RouteRecord.gateway? (·.path.getLastD 0) fun known record => ?_
    cases record <;> rfl

/-- Whatever records a sample has, and in whatever order, its flow record `FollowsRoute` of the records of routers and
gateways that are written as they should be (`Routed`). -/
theorem route_of_decode (form : Form) (exporter : IpAddress) (timeReceived : UInt64) (body : Bytes) (lead : Lead form)
    (blocks : List WrittenBlock) (sample : IsSample body lead blocks) (about : blocks.any WrittenBlock.isPacket) :
    (∃ records, Routed blocks records)
      ∧ ∀ records, Routed blocks records →
        ∃ flow, (FlowSample.decode form exporter timeReceived body).outcome = .ok (some flow)
          ∧ FollowsRoute (records.filterMap RouteRecord.router?) (records.filterMap RouteRecord.gateway?) flow := by
  refine ⟨exists_routed blocks, fun records routed => ?_⟩
  have whole := congrArg FlowSample.Result.outcome (sample.decode exporter timeReceived)
  refine ⟨_, whole.trans (congrArg Except.ok (if_pos about)), ?_⟩
  have blank : (lead.initial exporter timeReceived).routePart = ⟨none, 0, 0, 0, 0⟩ := rfl
  exact followsRoute_of_routePart blank
    ((FlowRecord.routePart_inferEtherType _).trans (routed.routePart_foldl _))

/-- Three routers and two gateways around the fields of the packet, a record of a vendor and a router that is too short:
the next hop is that of the second router, the masks are those of the third, and the path ends in an empty segment. -/
theorem route_of_decode_mixed :
    let exporter : IpAddress := .v4 ⟨192, 0, 2, 1⟩
    let lead : Lead .compact := .compact 1 0 512 0 0 3 4
    let first : Gateway := ⟨some (.v4 ⟨10, 0, 0, 1⟩), 64499, 64500, 64501, [], by decide⟩
    let second : Router := ⟨some (.v4 ⟨10, 0, 0, 2⟩), 24, 24⟩
    let last : Gateway := ⟨some (.v4 ⟨10, 0, 0, 3⟩), 64499, 64510, 64501,
      [⟨2, [64502, 64503], by decide⟩, ⟨1, [], by decide⟩], by decide⟩
    let third : Router := ⟨none, 264, 9⟩
    let blocks : List WrittenBlock :=
      [⟨1003, first.encode⟩, ⟨3, spell [90, 17, 0x0a000001, 0x0a000002, 53, 5353, 0, 0]⟩, ⟨1002, second.encode⟩,
        ⟨4097, [1, 2, 3]⟩, ⟨1003, last.encode⟩, ⟨1002, [0, 0]⟩, ⟨1002, third.encode ++ [7]⟩]
    let records : List RouteRecord := [.gateway first, .router second, .gateway last, .router third]
    let body := sampleOf lead blocks []
    IsSample body lead blocks ∧ blocks.any WrittenBlock.isPacket ∧ Routed blocks records
      ∧ ∃ flow, (FlowSample.decode .compact exporter 0 body).outcome = .ok (some flow)
        ∧ flow.nextHop = some (.v4 ⟨10, 0, 0, 2⟩)
        ∧ (flow.sourceMask.toNat, flow.destinationMask.toNat) = (8, 9)
        ∧ (flow.sourceAs, flow.destinationAs) = (64510, 64503) := by
  intro exporter lead first second last third blocks records body
  have sample : IsSample body lead blocks := ⟨by decide, by decide, [], rfl⟩
  have about : blocks.any WrittenBlock.isPacket := by decide
  have elsewhere : ∀ {block : WrittenBlock}, block.format ≠ 1002 → block.format ≠ 1003 →
      ∀ record, ¬ block.Holds record := by
    rintro block router gateway (own | own) ⟨format, -⟩
    · exact router format
    · exact gateway format
  have short : ∀ record, ¬ WrittenBlock.Holds ⟨1002, [0, 0]⟩ record := by
    intro record holds
    cases (WrittenBlock.said_of_holds holds).symm.trans
      (show WrittenBlock.said ⟨1002, [0, 0]⟩ = .error (.truncated .extendedRouter 4 2) from rfl)
  have routed : Routed blocks records :=
    .route ⟨rfl, [], (List.append_nil _).symm⟩ <| .other (elsewhere (by decide) (by decide)) <|
      .route ⟨rfl, [], (List.append_nil _).symm⟩ <| .other (elsewhere (by decide) (by decide)) <|
      .route ⟨rfl, [], (List.append_nil _).symm⟩ <| .other short <| .route ⟨rfl, [7], rfl⟩ .nil
  obtain ⟨flow, given, follows⟩ :=
    (route_of_decode .compact exporter 0 body lead blocks sample about).2 records routed
  rw [show records.filterMap RouteRecord.router? = [second, third] from rfl,
    show records.filterMap RouteRecord.gateway? = [first, last] from rfl] at follows
  refine ⟨sample, about, routed, flow, given, follows.nextHop, ?_, ?_⟩
  · simp [follows.sourceMask, follows.destinationMask, third]
  · simp [follows.sourceAs, follows.destinationAs, last, Gateway.path]

end Sflow

end FlowCollector
