import FlowCollector.Proofs.Address.Bytes
import FlowCollector.Proofs.Element
import FlowCollector.Proofs.Element.Unsigned

/-!
# What a row of fields fills in

The types of fields are many and the members of a record fewer, so several types write one member, in whatever width
each of them comes. `Role` says what a type is for: fourteen members that hold numbers, the addresses, and what is said
about sampling. Filling in is then one rule for each role, and the rule for a row of fields is that of its last one.

Only the next hop goes by another rule. Which of two comes first in the row does not matter to it, unless both are of
the routing protocol.
-/

set_option autoImplicit false

namespace FlowCollector

/-- The members of a record that hold a number from a field, each with its `types` and the `size` that numbers are cut
down to. -/
inductive NumberMember where
  | bytes
  | packets
  | protocol
  | tcpFlags
  | sourcePort
  | destinationPort
  | sourceMask
  | destinationMask
  | inputInterface
  | outputInterface
  | sourceAs
  | destinationAs
  | forwardingStatus
  | etherType
  deriving DecidableEq, Repr

namespace NumberMember

/-- The types of the fields that write a member. No type writes two. -/
def types : NumberMember → List UInt16
  | bytes => [1, 85]
  | packets => [2, 86]
  | protocol => [4]
  | tcpFlags => [6]
  | sourcePort => [7]
  | destinationPort => [11]
  | sourceMask => [9, 29]
  | destinationMask => [13, 30]
  | inputInterface => [10]
  | outputInterface => [14]
  | sourceAs => [16]
  | destinationAs => [17]
  | forwardingStatus => [89]
  | etherType => [256]

/-- How many values a member can have: two to the number of its bits. A number beyond that is taken modulo it. -/
def size : NumberMember → Nat
  | bytes | packets => UInt64.size
  | inputInterface | outputInterface | sourceAs | destinationAs | forwardingStatus => UInt32.size
  | sourcePort | destinationPort | etherType => UInt16.size
  | protocol | tcpFlags | sourceMask | destinationMask => UInt8.size

/-- The value of a member as a number, whatever its width. -/
def get (record : FlowRecord) : NumberMember → Nat
  | bytes => record.bytes.toNat
  | packets => record.packets.toNat
  | protocol => record.protocol.toNat
  | tcpFlags => record.tcpFlags.toNat
  | sourcePort => record.sourcePort.toNat
  | destinationPort => record.destinationPort.toNat
  | sourceMask => record.sourceMask.toNat
  | destinationMask => record.destinationMask.toNat
  | inputInterface => record.inputInterface.toNat
  | outputInterface => record.outputInterface.toNat
  | sourceAs => record.sourceAs.toNat
  | destinationAs => record.destinationAs.toNat
  | forwardingStatus => record.forwardingStatus.toNat
  | etherType => record.etherType.toNat

/-- Writes a member, cut down to its width: `get` has it back modulo `size`. -/
def put (record : FlowRecord) (value : UInt64) : NumberMember → FlowRecord
  | bytes => { record with bytes := value }
  | packets => { record with packets := value }
  | protocol => { record with protocol := value.toUInt8 }
  | tcpFlags => { record with tcpFlags := value.toUInt8 }
  | sourcePort => { record with sourcePort := value.toUInt16 }
  | destinationPort => { record with destinationPort := value.toUInt16 }
  | sourceMask => { record with sourceMask := value.toUInt8 }
  | destinationMask => { record with destinationMask := value.toUInt8 }
  | inputInterface => { record with inputInterface := value.toUInt32 }
  | outputInterface => { record with outputInterface := value.toUInt32 }
  | sourceAs => { record with sourceAs := value.toUInt32 }
  | destinationAs => { record with destinationAs := value.toUInt32 }
  | forwardingStatus => { record with forwardingStatus := value.toUInt32 }
  | etherType => { record with etherType := value.toUInt16 }

theorem get_put_self (member : NumberMember) (record : FlowRecord) (value : UInt64) :
    member.get (member.put record value) = value.toNat % member.size := by
  have fits : value.toNat % UInt64.size = value.toNat := Nat.mod_eq_of_lt value.toNat_lt
  cases member
  case bytes => exact fits.symm
  case packets => exact fits.symm
  all_goals rfl

theorem get_put_of_ne {member other : NumberMember} (ne : other ≠ member) (record : FlowRecord) (value : UInt64) :
    member.get (other.put record value) = member.get record := by
  cases member <;> cases other <;> first | rfl | exact absurd rfl ne

end NumberMember

/-- The two kinds of addresses, by their `width` in a field. -/
inductive Family where
  | v4
  | v6
  deriving DecidableEq, Repr

namespace Family

def width : Family → Nat
  | v4 => 4
  | v6 => 16

/-- The address that bytes spell, if they are as many as `width` says. -/
def read? : Family → Bytes → Option IpAddress
  | v4 => IpAddress.ofV4Bytes?
  | v6 => IpAddress.ofV6Bytes?

theorem isSome_read? (family : Family) (value : Bytes) :
    (family.read? value).isSome ↔ value.length = family.width := by
  cases family with
  | v4 =>
    simp only [read?, width, IpAddress.ofV4Bytes?, Option.isSome_map]
    constructor
    · intro found
      obtain ⟨address, spelled⟩ := Option.isSome_iff_exists.1 found
      rw [← Ipv4.toBytes_of_ofBytes? spelled]
      rfl
    · intro four
      exact Option.isSome_iff_exists.2 (Ipv4.exists_ofBytes? four)
  | v6 =>
    simp only [read?, width, IpAddress.ofV6Bytes?, Option.isSome_map]
    constructor
    · intro found
      obtain ⟨address, spelled⟩ := Option.isSome_iff_exists.1 found
      rw [← Ipv6.toBytes_of_ofBytes? spelled, address.length_toBytes]
    · intro sixteen
      exact Option.isSome_iff_exists.2 (Ipv6.exists_ofBytes? sixteen)

end Family

/-! ## What a type is for -/

/-- What a field fills in: a `NumberMember`, one of the addresses, or what is said about sampling. -/
inductive Role where
  | number (member : NumberMember)
  | source (family : Family)
  | destination (family : Family)
  /-- The next hop as the router forwards. It always replaces what was known. -/
  | nextHop (family : Family)
  /-- The next hop as the routing protocol knows it, which counts only while none is known. -/
  | bgpNextHop (family : Family)
  | samplingRate
  | samplerId
  deriving DecidableEq, Repr

namespace Role

/-- The types of the fields that have a role, from which `Role.ofType?` finds it. -/
def types : Role → List UInt16
  | number member => member.types
  | source .v4 => [8]
  | source .v6 => [27]
  | destination .v4 => [12]
  | destination .v6 => [28]
  | nextHop .v4 => [15]
  | nextHop .v6 => [62]
  | bgpNextHop .v4 => [18]
  | bgpNextHop .v6 => [63]
  | samplingRate => [34, 50, 305]
  | samplerId => [48, 302]

end Role

/-- What an element fills in. Each element of `Element.ofNumber?` has one role, and several share some. -/
def Element.role : Element → Role
  | octets => .number .bytes
  | packets => .number .packets
  | protocol => .number .protocol
  | tcpFlags => .number .tcpFlags
  | sourcePort => .number .sourcePort
  | destinationPort => .number .destinationPort
  | sourceMask => .number .sourceMask
  | destinationMask => .number .destinationMask
  | inputInterface => .number .inputInterface
  | outputInterface => .number .outputInterface
  | sourceAs => .number .sourceAs
  | destinationAs => .number .destinationAs
  | forwardingStatus => .number .forwardingStatus
  | etherType => .number .etherType
  | sourceIpv4 => .source .v4
  | destinationIpv4 => .destination .v4
  | sourceIpv6 => .source .v6
  | destinationIpv6 => .destination .v6
  | nextHopIpv4 => .nextHop .v4
  | nextHopIpv6 => .nextHop .v6
  | bgpNextHopIpv4 => .bgpNextHop .v4
  | bgpNextHopIpv6 => .bgpNextHop .v6
  | samplingRate => .samplingRate
  | samplerId => .samplerId

namespace Role

/-- The role of a type that has one, by way of its element. -/
def ofType? (fieldType : UInt16) : Option Role :=
  (Element.ofNumber? fieldType).map Element.role

theorem ofType?_of_mem {role : Role} {fieldType : UInt16} (listed : fieldType ∈ role.types) :
    ofType? fieldType = some role := by
  have all : role.types.all (fun own => ofType? own = some role) := by
    rcases role with member | family | family | family | family | _ | _
    case number => cases member <;> decide
    case samplingRate => decide
    case samplerId => decide
    all_goals cases family <;> decide
  exact of_decide_eq_true (List.all_eq_true.1 all fieldType listed)

theorem mem_types_of_ofType? {role : Role} {fieldType : UInt16} (named : ofType? fieldType = some role) :
    fieldType ∈ role.types := by
  have back : fieldType = .ofNat fieldType.toNat := fieldType.ofNat_toNat.symm
  obtain ⟨element, found, rfl⟩ := Option.map_eq_some_iff.1 named
  unfold Element.ofNumber? at found
  -- One goal for each number that has an element.
  split at found <;> cases found <;> rename_i number <;> rw [back, number] <;> decide

theorem ofType?_eq_some_iff {role : Role} {fieldType : UInt16} :
    ofType? fieldType = some role ↔ fieldType ∈ role.types :=
  ⟨mem_types_of_ofType?, ofType?_of_mem⟩

end Role

/-! ## Rows of fields -/

/-- A field as `FieldState.applyFields` applies it: its type, and the bytes of its value. -/
abbrev Field := UInt16 × Bytes

namespace Field

/-- The number in a field, if it has one of the types and `readUnsigned?` can read its width. -/
def number? (types : List UInt16) (field : Field) : Option Nat :=
  if field.1 ∈ types ∧ 1 ≤ field.2.length ∧ field.2.length ≤ 8 then some (Bytes.toNat field.2) else none

/-- The address in a field, if it is one of four bytes under the first type, or of sixteen under the other: one type
for each `Family`. -/
def address? (v4 v6 : UInt16) (field : Field) : Option IpAddress :=
  if field.1 = v4 then IpAddress.ofV4Bytes? field.2
  else if field.1 = v6 then IpAddress.ofV6Bytes? field.2
  else none

/-- The types of the fields that carry a number: those of each `NumberMember`, and those about sampling. -/
def numberTypes : List UInt16 :=
  [1, 2, 4, 6, 7, 9, 10, 11, 13, 14, 16, 17, 29, 30, 34, 48, 50, 85, 86, 89, 256, 302, 305]

/-- The types of the fields that carry an address of four bytes, `Family.v4`. -/
def v4Types : List UInt16 := [8, 12, 15, 18]

/-- The types of the fields that carry an address of sixteen bytes, `Family.v6`. -/
def v6Types : List UInt16 := [27, 28, 62, 63]

/-- True of a field of a known type in a width that the type cannot have. By `applyFields_eq` these are the fields that
errors tell of. -/
def Unsupported (field : Field) : Prop :=
  (field.1 ∈ numberTypes ∧ ¬ (1 ≤ field.2.length ∧ field.2.length ≤ 8))
    ∨ (field.1 ∈ v4Types ∧ field.2.length ≠ 4)
    ∨ (field.1 ∈ v6Types ∧ field.2.length ≠ 16)

instance (field : Field) : Decidable field.Unsupported := by
  unfold Unsupported
  infer_instance

/-- The error that tells of a field: its type and how many bytes it has. -/
def error (field : Field) : DecodeError := .unsupportedField field.1 field.2.length

end Field

/-- The numbers that the fields of these types carry, in order. Those that `Field.number?` cannot read are passed
over. -/
def numbersOf (types : List UInt16) (fields : List Field) : List Nat := fields.filterMap (Field.number? types)

/-- The addresses that the fields of these two types carry, in order. Those that `Field.address?` cannot read are
passed over. -/
def addressesOf (v4 v6 : UInt16) (fields : List Field) : List IpAddress := fields.filterMap (Field.address? v4 v6)

/-! ## One field -/

namespace Field

theorem number?_types (role : Role) (field : Field) :
    field.number? role.types
      = if Role.ofType? field.1 = some role then (readUnsigned? field.2).map UInt64.toNat else none := by
  rw [map_toNat_readUnsigned?, number?]
  by_cases own : field.1 ∈ role.types
  · simp [Role.ofType?_eq_some_iff, own]
  · simp [Role.ofType?_eq_some_iff, own]

theorem address?_types {role : Family → Role} {v4 v6 : UInt16} (four : (role .v4).types = [v4])
    (six : (role .v6).types = [v6]) (field : Field) :
    field.address? v4 v6
      = if Role.ofType? field.1 = some (role .v4) then Family.v4.read? field.2
        else if Role.ofType? field.1 = some (role .v6) then Family.v6.read? field.2
        else none := by
  simp only [address?, Role.ofType?_eq_some_iff, four, six, List.mem_singleton]
  rfl

end Field

namespace FieldState

/-- Fills in what a value says in a role. Nothing if it has a width that the role does not admit (`Role.Admits`). -/
def write? (state : FieldState) (role : Role) (value : Bytes) : Option FieldState :=
  let record := state.record
  match role with
  | .number member => (readUnsigned? value).map fun n => { state with record := member.put record n }
  | .source family => (family.read? value).map fun a => { state with record := { record with sourceAddress := a } }
  | .destination family =>
    (family.read? value).map fun a => { state with record := { record with destinationAddress := a } }
  | .nextHop family =>
    (family.read? value).map fun a => { state with record := { record with nextHop := some a } }
  | .bgpNextHop family =>
    (family.read? value).map fun a =>
      { state with record := { record with nextHop := record.nextHop.or (some a) } }
  | .samplingRate => (readUnsigned? value).map fun n => { state with samplingRate := some n }
  | .samplerId => (readUnsigned? value).map fun n => { state with samplerId := some n }

theorem offerNextHop_eq (state : FieldState) (address : IpAddress) :
    state.offerNextHop address
      = { state with record := { state.record with nextHop := state.record.nextHop.or (some address) } } := by
  obtain ⟨record, _, _⟩ := state
  unfold offerNextHop
  cases known : record.nextHop with
  | none => rfl
  | some other =>
    dsimp only
    rw [Option.some_or, ← known]

theorem fill?_eq_write? (state : FieldState) (element : Element) (value : Bytes) :
    state.fill? element value = state.write? element.role value := by
  cases element
  case bgpNextHopIpv4 => exact congrFun (congrArg Option.map (funext state.offerNextHop_eq)) _
  case bgpNextHopIpv6 => exact congrFun (congrArg Option.map (funext state.offerNextHop_eq)) _
  all_goals rfl

/-- Applies a field by its role, if it can be applied, and else leaves the state as it is. -/
def step (state : FieldState) (field : Field) : FieldState :=
  ((Role.ofType? field.1).bind fun role => state.write? role field.2).getD state

/-- What no value in a role changes, as seen by `look`, is the same whether there is a value or not. -/
theorem getD_map_frame {α β : Type} (look : FieldState → β) {state : FieldState} {fill : α → FieldState}
    (said : Option α) (same : ∀ value, look (fill value) = look state) :
    look ((said.map fill).getD state) = look state := by
  cases said with
  | none => rfl
  | some value => exact same value

section Step

variable (state : FieldState) (field : Field)

theorem get_step (member : NumberMember) :
    member.get (state.step field).record
      = ((field.number? member.types).map (· % member.size)).getD (member.get state.record) := by
  have types : field.number? member.types = _ := field.number?_types (.number member)
  rw [types]
  unfold step
  cases Role.ofType? field.1 with
  | none => rfl
  | some role =>
    cases role with
    | number other =>
      by_cases own : other = member
      · subst own
        simp only [Option.bind_some, write?, if_true]
        cases readUnsigned? field.2 with
        | none => rfl
        | some n => exact other.get_put_self state.record n
      · rw [if_neg (by simpa using own)]
        exact getD_map_frame (member.get ·.record) _ (NumberMember.get_put_of_ne own state.record)
    | source | destination | nextHop | bgpNextHop | samplingRate | samplerId =>
      refine getD_map_frame (member.get ·.record) _ fun _ => ?_
      cases member <;> rfl

theorem sourceAddress_step :
    (state.step field).record.sourceAddress = (field.address? 8 27).getD state.record.sourceAddress := by
  rw [Field.address?_types (show (Role.source .v4).types = [8] from rfl) rfl]
  unfold step
  cases Role.ofType? field.1 with
  | none => rfl
  | some role =>
    cases role with
    | source family => cases said : family.read? field.2 <;> cases family <;> simp [write?, said]
    | number member =>
      refine getD_map_frame (·.record.sourceAddress) _ fun _ => ?_
      cases member <;> rfl
    | destination | nextHop | bgpNextHop | samplingRate | samplerId =>
      refine getD_map_frame (·.record.sourceAddress) _ fun _ => ?_
      rfl

theorem destinationAddress_step :
    (state.step field).record.destinationAddress = (field.address? 12 28).getD state.record.destinationAddress := by
  rw [Field.address?_types (show (Role.destination .v4).types = [12] from rfl) rfl]
  unfold step
  cases Role.ofType? field.1 with
  | none => rfl
  | some role =>
    cases role with
    | destination family => cases said : family.read? field.2 <;> cases family <;> simp [write?, said]
    | number member =>
      refine getD_map_frame (·.record.destinationAddress) _ fun _ => ?_
      cases member <;> rfl
    | source | nextHop | bgpNextHop | samplingRate | samplerId =>
      refine getD_map_frame (·.record.destinationAddress) _ fun _ => ?_
      rfl

theorem nextHop_step :
    (state.step field).record.nextHop
      = (field.address? 15 62).or (state.record.nextHop.or (field.address? 18 63)) := by
  rw [Field.address?_types (show (Role.nextHop .v4).types = [15] from rfl) rfl,
    Field.address?_types (show (Role.bgpNextHop .v4).types = [18] from rfl) rfl]
  unfold step
  cases Role.ofType? field.1 with
  | none => simp
  | some role =>
    cases role with
    | nextHop family => cases said : family.read? field.2 <;> cases family <;> simp [write?, said]
    | bgpNextHop family => cases said : family.read? field.2 <;> cases family <;> simp [write?, said]
    | number member =>
      refine (getD_map_frame (·.record.nextHop) _ fun _ => ?_).trans (by simp)
      cases member <;> rfl
    | source | destination | samplingRate | samplerId =>
      refine (getD_map_frame (·.record.nextHop) _ fun _ => ?_).trans (by simp)
      rfl

theorem samplingRate_step : (state.step field).record.samplingRate = state.record.samplingRate := by
  unfold step
  cases Role.ofType? field.1 with
  | none => rfl
  | some role =>
    cases role with
    | number member =>
      refine getD_map_frame (·.record.samplingRate) _ fun _ => ?_
      cases member <;> rfl
    | source | destination | nextHop | bgpNextHop | samplingRate | samplerId =>
      refine getD_map_frame (·.record.samplingRate) _ fun _ => ?_
      rfl

end Step

end FieldState

/-! ## Fields that cannot be applied -/

/-- The widths that a value in a role can have, for which `write?` gives a state. -/
def Role.Admits (role : Role) (width : Nat) : Prop :=
  match role with
  | number _ | samplingRate | samplerId => 1 ≤ width ∧ width ≤ 8
  | source family | destination family | nextHop family | bgpNextHop family => width = family.width

namespace Field

variable {field : Field}

theorem unsupported_iff_of_numbers {types : List UInt16}
    (own : types.all fun t => t ∈ numberTypes ∧ t ∉ v4Types ∧ t ∉ v6Types) (listed : field.1 ∈ types) :
    field.Unsupported ↔ ¬ (1 ≤ field.2.length ∧ field.2.length ≤ 8) := by
  obtain ⟨number, no_v4, no_v6⟩ := of_decide_eq_true (List.all_eq_true.1 own _ listed)
  simp only [Unsupported, number, no_v4, no_v6, true_and, false_and, or_false]

theorem unsupported_iff {role : Role} (known : Role.ofType? field.1 = some role) :
    field.Unsupported ↔ ¬ role.Admits field.2.length := by
  have listed := Role.mem_types_of_ofType? known
  cases role with
  | number member => exact unsupported_iff_of_numbers (by cases member <;> decide) listed
  | samplingRate => exact unsupported_iff_of_numbers (by decide) listed
  | samplerId => exact unsupported_iff_of_numbers (by decide) listed
  | source family | destination family | nextHop family | bgpNextHop family =>
    cases family <;>
      (rw [Unsupported, List.mem_singleton.1 listed]
       simp [numberTypes, v4Types, v6Types, Role.Admits, Family.width])

theorem not_unsupported (unknown : Role.ofType? field.1 = none) : ¬ field.Unsupported := by
  have known : (numberTypes ++ v4Types ++ v6Types).all fun t => (Role.ofType? t).isSome := by decide
  have unlisted : field.1 ∉ numberTypes ++ v4Types ++ v6Types := by
    intro listed
    have found := List.all_eq_true.1 known _ listed
    rw [unknown] at found
    cases found
  simp only [List.mem_append, not_or] at unlisted
  simp [Unsupported, unlisted]

end Field

namespace FieldState

theorem isSome_write? (state : FieldState) (role : Role) (value : Bytes) :
    (state.write? role value).isSome ↔ role.Admits value.length := by
  cases role with
  | number | samplingRate | samplerId =>
    simp only [write?, Option.isSome_map]
    exact isSome_readUnsigned? value
  | source family | destination family | nextHop family | bgpNextHop family =>
    simp only [write?, Option.isSome_map]
    exact family.isSome_read? value

theorem applyField_eq (state : FieldState) (field : Field) :
    state.applyField field.1 field.2 = if field.Unsupported then .error field.error else .ok (state.step field) := by
  unfold applyField step
  cases named : Element.ofNumber? field.1 with
  | none =>
    have unknown : Role.ofType? field.1 = none := by rw [Role.ofType?, named]; rfl
    rw [if_neg (Field.not_unsupported unknown), unknown]
    rfl
  | some element =>
    have known : Role.ofType? field.1 = some element.role := by rw [Role.ofType?, named]; rfl
    have written := (not_congr (state.isSome_write? element.role field.2)).trans (Field.unsupported_iff known).symm
    rw [known, Option.bind_some]
    dsimp only
    rw [fill?_eq_write?]
    cases said : state.write? element.role field.2 with
    | none => rw [if_pos (written.1 (by simp [said]))]; rfl
    | some next => rw [if_neg (mt written.2 (by simp [said]))]; rfl

theorem step_of_unsupported (state : FieldState) {field : Field} (bad : field.Unsupported) :
    state.step field = state := by
  unfold step
  cases known : Role.ofType? field.1 with
  | none => rfl
  | some role =>
    have missing : ¬ (state.write? role field.2).isSome :=
      fun some => (Field.unsupported_iff known).1 bad ((state.isSome_write? role field.2).1 some)
    rw [Option.bind_some, Option.not_isSome_iff_eq_none.1 missing]
    rfl

/-- A row of fields is applied by `step`, field by field, and each that is `Field.Unsupported` is told of and changes
nothing. -/
theorem applyFields_eq (state : FieldState) (fields : List Field) :
    state.applyFields fields
      = (fields.foldl step state, (fields.filter fun field : Field => field.Unsupported).map Field.error) := by
  induction fields generalizing state with
  | nil => rfl
  | cons field others ih =>
    rw [applyFields, applyField_eq state field, List.foldl_cons, List.filter_cons]
    by_cases bad : field.Unsupported
    · rw [if_pos bad, if_pos (decide_eq_true bad), step_of_unsupported state bad]
      simp only [ih, List.map_cons]
    · rw [if_neg bad, if_neg (by simpa using bad)]
      exact ih (state.step field)

end FieldState

/-! ## A row of fields -/

namespace FieldState

theorem map_toNat_lastValue? (types : List UInt16) (fields : List Field) :
    (lastValue? types fields).map UInt64.toNat = (numbersOf types fields).getLast? := by
  have each : ∀ field : Field, (valueOf? types field).map UInt64.toNat = field.number? types := by
    intro field
    rw [valueOf?, Field.number?]
    by_cases own : field.1 ∈ types
    · simp [own, map_toNat_readUnsigned?]
    · simp [own]
  rw [lastValue?, numbersOf, ← List.getLast?_map, List.map_filterMap]
  exact congrArg (fun say => (fields.filterMap say).getLast?) (funext each)

theorem foldl_step_filter (state : FieldState) (fields : List Field) :
    (fields.filter fun field : Field => ¬ field.Unsupported).foldl step state = fields.foldl step state := by
  have each : ∀ (state : FieldState) (field : Field),
      (if decide (¬ field.Unsupported) then step state field else state) = step state field := by
    intro state field
    by_cases bad : field.Unsupported
    · rw [if_neg (by simpa using bad), step_of_unsupported state bad]
    · rw [if_pos (by simpa using bad)]
  simp only [List.foldl_filter, each]

/-- What is left of a row of fields that was applied to a blank record: what each member says, in terms of the row
alone. -/
structure Filled (blank : FlowRecord) (fields : List Field) (final : FieldState) : Prop where
  /-- A number is the last one sent for its member, cut down to the `size` of the member. -/
  numbers : ∀ member : NumberMember,
    member.get final.record = ((numbersOf member.types fields).getLast?.map (· % member.size)).getD (member.get blank)
  source : final.record.sourceAddress = (addressesOf 8 27 fields).getLast?.getD blank.sourceAddress
  destination : final.record.destinationAddress = (addressesOf 12 28 fields).getLast?.getD blank.destinationAddress
  /-- The last one of the router, else the first one of the routing protocol. -/
  nextHop : final.record.nextHop = (addressesOf 15 62 fields).getLast?.or (addressesOf 18 63 fields).head?
  ownRate : final.samplingRate.map UInt64.toNat = (numbersOf [34, 50, 305] fields).getLast?
  sampler : final.samplerId.map UInt64.toNat = (numbersOf [48, 302] fields).getLast?
  /-- No field says where the record comes from and when, nor with which rate it was sampled in the end. -/
  origin : final.record.origin = blank.origin
  rate : final.record.samplingRate = blank.samplingRate

/-- Whatever fields a record has, `applyFields` leaves it `Filled`: each member is told from the fields that are for
it. A field that is `Field.Unsupported` costs one error, and the others fill in what they would without it. -/
theorem filled_applyFields (exporter : IpAddress) (timeReceived : UInt64) (fields : List Field) :
    ∃ final,
      (start exporter timeReceived).applyFields fields
          = (final, (fields.filter fun field : Field => field.Unsupported).map Field.error)
        ∧ (start exporter timeReceived).applyFields (fields.filter fun field : Field => ¬ field.Unsupported)
          = (final, [])
        ∧ Filled (.blank exporter timeReceived) fields final := by
  have first := applyFields_eq (start exporter timeReceived) fields
  obtain ⟨origin, rate, sampler⟩ := applyFields_frame (start exporter timeReceived) fields
  rw [first] at origin rate sampler
  refine ⟨_, first, ?_, ?_⟩
  · rw [applyFields_eq, foldl_step_filter, List.filter_filter]
    simp
  refine ⟨fun member => ?_, ?_, ?_, ?_, ?_, ?_, origin, ?_⟩
  · rw [foldl_last (member.get ·.record) fun state field => get_step state field member, numbersOf,
      ← List.getLast?_map, List.map_filterMap]
    rfl
  · exact foldl_last (fun state : FieldState => state.record.sourceAddress) sourceAddress_step _ fields
  · exact foldl_last (fun state : FieldState => state.record.destinationAddress) destinationAddress_step _ fields
  · exact foldl_preferred (fun state : FieldState => state.record.nextHop) nextHop_step _ fields
  · rw [rate, ← map_toNat_lastValue?]
    exact congrArg (Option.map UInt64.toNat) (Option.or_none)
  · rw [sampler, ← map_toNat_lastValue?]
    exact congrArg (Option.map UInt64.toNat) (Option.or_none)
  · exact foldl_kept (fun state : FieldState => state.record.samplingRate) samplingRate_step _ fields

end FieldState

end FlowCollector
