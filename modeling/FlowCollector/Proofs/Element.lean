import FlowCollector.Element

/-!
# What one field changes

A field of a data record fills in the member that its element names, and leaves the rest as it was. The
frame of that is stated here once, over all elements: where the record comes from is never touched,
and what the fields say about sampling comes from the two elements that are about sampling.

So what a record says about sampling is what the last of those fields says. `lastValue?` is
that last value, found without filling in anything.
-/

set_option autoImplicit false

namespace FlowCollector

namespace Element

/-- The numbers of the elements that give a record's own sampling rate, those that `Element.ofNumber?` takes for
`samplingRate`. -/
def rateNumbers : List UInt16 := [34, 50, 305]

/-- The numbers of the elements that name a sampler, those that `Element.ofNumber?` takes for `samplerId`. -/
def samplerNumbers : List UInt16 := [48, 302]

theorem ofNumber?_eq_samplingRate_iff (number : UInt16) :
    ofNumber? number = some samplingRate ↔ number ∈ rateNumbers := by
  have numbered : ∀ known : UInt16, number = known ↔ number.toNat = known.toNat :=
    fun known => UInt16.toNat_inj.symm
  simp only [rateNumbers, List.mem_cons, List.not_mem_nil, or_false, numbered]
  unfold ofNumber?
  constructor
  · intro named
    split at named <;> simp_all
  · rintro (same | same | same) <;> rw [same] <;> rfl

theorem ofNumber?_eq_samplerId_iff (number : UInt16) :
    ofNumber? number = some samplerId ↔ number ∈ samplerNumbers := by
  have numbered : ∀ known : UInt16, number = known ↔ number.toNat = known.toNat :=
    fun known => UInt16.toNat_inj.symm
  simp only [samplerNumbers, List.mem_cons, List.not_mem_nil, or_false, numbered]
  unfold ofNumber?
  constructor
  · intro named
    split at named <;> simp_all
  · rintro (same | same) <;> rw [same] <;> rfl

end Element

/-! ## The last value of an element -/

/-- The value of a field, if it has one of the numbers and a width that `readUnsigned?` can read. -/
def valueOf? (numbers : List UInt16) (field : UInt16 × Bytes) : Option UInt64 :=
  if field.1 ∈ numbers then readUnsigned? field.2 else none

/-- The last `valueOf?` among the fields that have one of the numbers. -/
def lastValue? (numbers : List UInt16) (fields : List (UInt16 × Bytes)) : Option UInt64 :=
  (fields.filterMap (valueOf? numbers)).getLast?

theorem lastValue?_cons (numbers : List UInt16) (field : UInt16 × Bytes)
    (others : List (UInt16 × Bytes)) :
    lastValue? numbers (field :: others)
      = (lastValue? numbers others).or (valueOf? numbers field) := by
  unfold lastValue?
  cases own : valueOf? numbers field with
  | none => rw [List.filterMap_cons_none own, Option.or_none]
  | some value =>
    rw [List.filterMap_cons_some own, List.getLast?_cons]
    cases (others.filterMap (valueOf? numbers)).getLast? <;> rfl

/-! ## Fields -/

/-- Where a record comes from, and when it arrived: what no field of a record can change. -/
structure FlowRecord.Origin where
  exporterAddress : IpAddress
  exporterName : String
  exporterGroup : String
  timeReceived : UInt64
  deriving DecidableEq, Repr

/-- Where a record says that it comes from. `Session.record` starts from it, and `applyFields` leaves it alone. -/
def FlowRecord.origin (record : FlowRecord) : Origin :=
  ⟨record.exporterAddress, record.exporterName, record.exporterGroup, record.timeReceived⟩

namespace FieldState

theorem offerNextHop_frame (state : FieldState) (address : IpAddress) :
    (state.offerNextHop address).record.origin = state.record.origin
      ∧ (state.offerNextHop address).samplingRate = state.samplingRate
      ∧ (state.offerNextHop address).samplerId = state.samplerId := by
  unfold offerNextHop
  split <;> exact ⟨rfl, rfl, rfl⟩

theorem fill?_frame {state filled : FieldState} {element : Element} {value : Bytes}
    (h : state.fill? element value = some filled) :
    filled.record.origin = state.record.origin
      ∧ filled.samplingRate
        = (if element = .samplingRate then readUnsigned? value else none).or state.samplingRate
      ∧ filled.samplerId
        = (if element = .samplerId then readUnsigned? value else none).or state.samplerId := by
  cases element <;> obtain ⟨said, read, rfl⟩ := Option.map_eq_some_iff.1 h
  case bgpNextHopIpv4 => exact offerNextHop_frame state said
  case bgpNextHopIpv6 => exact offerNextHop_frame state said
  case samplingRate => exact ⟨rfl, by rw [if_pos rfl, read]; rfl, rfl⟩
  case samplerId => exact ⟨rfl, rfl, by rw [if_pos rfl, read]; rfl⟩
  all_goals exact ⟨rfl, rfl, rfl⟩

/-- A field about sampling that `fill?` leaves out has a width that cannot be read, so `valueOf?` leaves it out
too. -/
theorem readUnsigned?_of_fill? {state : FieldState} {element : Element} {value : Bytes}
    (h : state.fill? element value = none) (sampling : element = .samplingRate ∨ element = .samplerId) :
    readUnsigned? value = none := by
  rcases sampling with rfl | rfl <;> exact Option.map_eq_none_iff.1 h

theorem applyField_ok {state filled : FieldState} {fieldType : UInt16} {value : Bytes}
    (h : state.applyField fieldType value = .ok filled) :
    filled.record.origin = state.record.origin
      ∧ filled.samplingRate
        = (valueOf? Element.rateNumbers (fieldType, value)).or state.samplingRate
      ∧ filled.samplerId
        = (valueOf? Element.samplerNumbers (fieldType, value)).or state.samplerId := by
  unfold applyField at h
  simp only [valueOf?, ← Element.ofNumber?_eq_samplingRate_iff,
    ← Element.ofNumber?_eq_samplerId_iff]
  cases named : Element.ofNumber? fieldType with
  | none =>
    simp only [named] at h
    obtain rfl := Except.ok.inj h
    exact ⟨rfl, rfl, rfl⟩
  | some element =>
    simp only [named] at h
    cases said : state.fill? element value with
    | none =>
      simp only [said] at h
      cases h
    | some next =>
      simp only [said] at h
      obtain rfl := Except.ok.inj h
      simpa only [Option.some.injEq] using fill?_frame said

theorem applyField_error {state : FieldState} {fieldType : UInt16} {value : Bytes}
    {error : DecodeError} (h : state.applyField fieldType value = .error error) :
    valueOf? Element.rateNumbers (fieldType, value) = none
      ∧ valueOf? Element.samplerNumbers (fieldType, value) = none := by
  unfold applyField at h
  simp only [valueOf?, ← Element.ofNumber?_eq_samplingRate_iff,
    ← Element.ofNumber?_eq_samplerId_iff]
  cases named : Element.ofNumber? fieldType with
  | none => exact ⟨rfl, rfl⟩
  | some element =>
    simp only [named] at h
    cases said : state.fill? element value with
    | some next =>
      simp only [said] at h
      cases h
    | none =>
      simp only [Option.some.injEq]
      constructor
      · split
        · rename_i own
          exact readUnsigned?_of_fill? said (.inl own)
        · rfl
      · split
        · rename_i own
          exact readUnsigned?_of_fill? said (.inr own)
        · rfl

/-- What the fields leave: the record comes from where it came from, and about sampling it says the `lastValue?` of
the fields about it, or what was said before. -/
theorem applyFields_frame (state : FieldState) (fields : List (UInt16 × Bytes)) :
    (state.applyFields fields).1.record.origin = state.record.origin
      ∧ (state.applyFields fields).1.samplingRate
        = (lastValue? Element.rateNumbers fields).or state.samplingRate
      ∧ (state.applyFields fields).1.samplerId
        = (lastValue? Element.samplerNumbers fields).or state.samplerId := by
  induction fields generalizing state with
  | nil => exact ⟨rfl, rfl, rfl⟩
  | cons field others ih =>
    obtain ⟨fieldType, value⟩ := field
    rw [applyFields, lastValue?_cons, lastValue?_cons]
    cases applied : state.applyField fieldType value with
    | ok filled =>
      obtain ⟨origin, rate, sampler⟩ := applyField_ok applied
      obtain ⟨originRest, rateRest, samplerRest⟩ := ih filled
      refine ⟨originRest.trans origin, ?_, ?_⟩
      · rw [Option.or_assoc, ← rate]
        exact rateRest
      · rw [Option.or_assoc, ← sampler]
        exact samplerRest
    | error error =>
      obtain ⟨rate, sampler⟩ := applyField_error applied
      -- A field that is left out was none of the last ones either.
      rw [rate, sampler, Option.or_none, Option.or_none]
      exact ih state

end FieldState

end FlowCollector
