import FlowCollector.Proofs.Address
import FlowCollector.Proofs.Tally
import FlowCollector.Stats
import Mathlib.Data.List.Basic

/-!
# What is counted, and what is published of it

The statistics and the published counters are two books of one business, and they are not kept alike: the
statistics have a place for every reason and every input, count records of all protocols together and know exporters
by their address; what is published has a series for each thing that ever happened, and knows exporters by text.
`Monitor.Consistent` says that the two agree all the same, and that a series is there only once it counts
something.
-/

set_option autoImplicit false

namespace FlowCollector

/-! ## Series -/

theorem Metric.name_injective {metric other : Metric} (h : metric.name = other.name) :
    metric = other := by
  cases metric <;> cases other <;> simp [name] at h ⊢

theorem Metric.brace_not_mem_name (metric : Metric) : '\x7b' ∉ metric.name.toList := by
  cases metric <;> simp [name]

theorem Reason.label_injective {reason other : Reason} (h : reason.label = other.label) :
    reason = other := by
  cases reason <;> cases other <;> simp [label] at h ⊢

theorem Protocol.name_injective {protocol other : Protocol} (h : protocol.name = other.name) :
    protocol = other := by
  cases protocol <;> cases other <;> simp [name] at h ⊢

theorem Metric.exists_series_toList (metric : Metric) (label : Option (String × String)) :
    ∃ rest, (metric.series label).toList = metric.name.toList ++ '\x7b' :: rest := by
  cases label with
  | none => exact ⟨_, String.toList_append⟩
  | some label =>
    refine ⟨label.1.toList ++ ("=".toList ++ (label.2.toList ++ "\x7d".toList)), ?_⟩
    simp [series]

/-- A series names its `Metric`, since no name has a brace in it, and a label starts with one. -/
theorem Metric.eq_of_series {metric other : Metric} {label label' : Option (String × String)}
    (h : metric.series label = other.series label') : metric = other := by
  obtain ⟨rest, written⟩ := metric.exists_series_toList label
  obtain ⟨rest', written'⟩ := other.exists_series_toList label'
  have cut := congrArg (Text.cutAt '\x7b') (congrArg String.toList h)
  rw [written, written', Text.cutAt_append metric.brace_not_mem_name,
    Text.cutAt_append other.brace_not_mem_name] at cut
  exact name_injective (String.toList_inj.1 (Prod.mk.inj (Option.some.inj cut)).1)

/-- Among the series of one metric and label, each has its own value, since `series` quotes it. -/
theorem Metric.value_eq_of_series {metric : Metric} {label value value' : String}
    (h : metric.series (some (label, value)) = metric.series (some (label, value'))) :
    value = value' := by
  have chars := congrArg String.toList h
  simp only [series, String.toList_append, List.append_assoc, List.append_cancel_left_eq,
    List.append_cancel_right_eq] at chars
  exact String.toList_inj.1 chars

namespace Counter

/-- The `Metric` that a counter is published as. -/
def metric : Counter → Metric
  | received _ => .received
  | dropped _ => .dropped
  | decodeErrors _ => .decodeErrors
  | missingTemplates _ => .missingTemplates
  | recordsDecoded _ => .recordsDecoded
  | templatesUpserted => .templatesUpserted

/-- The label that tells the series of its metric apart, with the value it has for this counter. -/
def label : Counter → Option (String × String)
  | received input => some ("input", toString input)
  | dropped input => some ("input", toString input)
  | decodeErrors reason => some ("reason", reason.label)
  | missingTemplates exporter => some ("exporter", exporter.text)
  | recordsDecoded protocol => some ("decoder", protocol.name)
  | templatesUpserted => none

theorem series_eq (counter : Counter) : counter.series = counter.metric.series counter.label := by
  cases counter <;> rfl

/-- No two counters share a series, so what is published can be read back counter by counter. -/
theorem series_injective {counter other : Counter} (h : counter.series = other.series) :
    counter = other := by
  have same : counter.metric = other.metric := by
    rw [series_eq, series_eq] at h
    exact Metric.eq_of_series h
  cases counter <;> cases other <;> cases same
  case received.received => rw [toString_injective (Metric.value_eq_of_series h)]
  case dropped.dropped => rw [toString_injective (Metric.value_eq_of_series h)]
  case decodeErrors.decodeErrors => rw [Reason.label_injective (Metric.value_eq_of_series h)]
  case missingTemplates.missingTemplates =>
    rw [IpAddress.text_injective (Metric.value_eq_of_series h)]
  case recordsDecoded.recordsDecoded => rw [Protocol.name_injective (Metric.value_eq_of_series h)]
  case templatesUpserted.templatesUpserted => rfl

end Counter

namespace Meters

/-- What is published in a series: all that was counted under that name, or nothing if nothing was. It is read from
the meters by name, as somebody outside would. -/
def published? (meters : Meters) (series : String) : Option Nat :=
  match (meters.counters.entries.filter fun entry => entry.1.series = series).map (·.2) with
  | [] => none
  | values => some (sumOf id values)

theorem published?_series (meters : Meters) (counter : Counter) :
    meters.published? counter.series = meters.counters.get? counter := by
  have same : (fun entry : Counter × Nat => decide (entry.1.series = counter.series))
      = fun entry => decide (entry.1 = counter) := by
    funext entry
    rw [decide_eq_decide]
    exact ⟨Counter.series_injective, congrArg Counter.series⟩
  rw [published?, same, Table.filter_key]
  cases meters.counters.get? counter with
  | none => rfl
  | some value => simp [sumOf]

end Meters

/-! ## Statistics -/

/-- What the statistics count. There are fewer of these than counters, since records of all protocols are counted
together. -/
inductive Head where
  | received (input : Nat)
  | dropped (input : Nat)
  | decodeErrors (reason : Reason)
  | missingTemplates (exporter : IpAddress)
  | recordsDecoded
  | templatesUpserted
  deriving DecidableEq

/-- The head of the statistics under which a counter counts. `recordsDecoded` forgets the protocol. -/
def Counter.head : Counter → Head
  | received input => .received input
  | dropped input => .dropped input
  | decodeErrors reason => .decodeErrors reason
  | missingTemplates exporter => .missingTemplates exporter
  | recordsDecoded _ => .recordsDecoded
  | templatesUpserted => .templatesUpserted

namespace Stats

/-- How much of it there was, by the `Stats`. -/
def count (stats : Stats) : Head → Nat
  | .received input => stats.received input
  | .dropped input => stats.dropped input
  | .decodeErrors reason => Tally.count stats.decodeErrors reason
  | .missingTemplates exporter => Tally.count stats.missingTemplates exporter
  | .recordsDecoded => stats.recordsDecoded
  | .templatesUpserted => stats.templatesUpserted

theorem count_start (inputs : Nat) (head : Head) : (start inputs).count head = 0 := by
  cases head with
  | received input =>
    simp only [count, received, start, List.getElem?_replicate]
    split <;> rfl
  | dropped input =>
    simp only [count, dropped, start, List.getElem?_replicate]
    split <;> rfl
  | _ => rfl

theorem count_add {stats : Stats} {counter : Counter} (known : stats.has counter = true)
    (amount : Nat) (head : Head) :
    (stats.add counter amount).count head
      = stats.count head + if counter.head = head then amount else 0 := by
  cases counter with
  | received input =>
    have inside : input < stats.inputs.length := of_decide_eq_true known
    cases head with
    | received other =>
      by_cases same : input = other
      · subst same
        simp [add, count, received, Counter.head, List.getElem?_eq_getElem inside]
      · simp [add, count, received, Counter.head, same]
    | dropped other =>
      simp only [add, count, dropped, Counter.head, List.getElem?_modify, reduceCtorEq, if_false,
        Nat.add_zero]
      cases stats.inputs[other]? with
      | none => rfl
      | some counts =>
        simp only [Option.map_some, Option.map_eq_map]
        split <;> rfl
    | _ => rfl
  | dropped input =>
    have inside : input < stats.inputs.length := of_decide_eq_true known
    cases head with
    | dropped other =>
      by_cases same : input = other
      · subst same
        simp [add, count, dropped, Counter.head, List.getElem?_eq_getElem inside]
      · simp [add, count, dropped, Counter.head, same]
    | received other =>
      simp only [add, count, received, Counter.head, List.getElem?_modify, reduceCtorEq, if_false,
        Nat.add_zero]
      cases stats.inputs[other]? with
      | none => rfl
      | some counts =>
        simp only [Option.map_some, Option.map_eq_map]
        split <;> rfl
    | _ => rfl
  | decodeErrors reason =>
    cases head with
    | decodeErrors other => simp [add, count, Counter.head, Tally.count_add]
    | _ => rfl
  | missingTemplates exporter =>
    cases head with
    | missingTemplates other => simp [add, count, Counter.head, Tally.count_add]
    | _ => rfl
  | recordsDecoded protocol => cases head <;> rfl
  | templatesUpserted => cases head <;> rfl

theorem length_inputs_add (stats : Stats) (counter : Counter) (amount : Nat) :
    (stats.add counter amount).inputs.length = stats.inputs.length := by
  cases counter <;> simp [add]

theorem total_missingTemplates_add (stats : Stats) (counter : Counter) (amount : Nat) :
    Tally.total (stats.add counter amount).missingTemplates
      = Tally.total stats.missingTemplates
        + match counter with
          | .missingTemplates _ => amount
          | _ => 0 := by
  cases counter with
  | missingTemplates exporter => exact Tally.total_add stats.missingTemplates exporter amount
  | _ => rfl

end Stats

namespace Monitor

variable {monitor : Monitor} {counter : Counter} {amount : Nat}

theorem add_of_has (known : monitor.stats.has counter = true) (amount : Nat) :
    monitor.add counter amount
      = ⟨monitor.stats.add counter amount, monitor.meters.add counter amount⟩ :=
  if_pos known

theorem count_add (known : monitor.stats.has counter = true) (amount : Nat) (head : Head) :
    (monitor.add counter amount).stats.count head
      = monitor.stats.count head + if counter.head = head then amount else 0 := by
  rw [add_of_has known]
  exact Stats.count_add known amount head

theorem length_inputs_add (monitor : Monitor) (counter : Counter) (amount : Nat) :
    (monitor.add counter amount).stats.inputs.length = monitor.stats.inputs.length := by
  unfold add
  split
  · exact Stats.length_inputs_add monitor.stats counter amount
  · rfl

/-- What is published is what the statistics say. `Monitor.start` is consistent, and every addition keeps it. -/
structure Consistent (monitor : Monitor) : Prop where
  /-- What counts nothing is not published. -/
  positive : Tally.Positive monitor.meters.counters
  /-- Of what is counted alike in both, by `Counter.head`, the two counts are the same. -/
  alike : ∀ counter : Counter, counter.head ≠ .recordsDecoded →
    Tally.count monitor.meters.counters counter = monitor.stats.count counter.head
  /-- Records are counted by `Protocol` in what is published, and all together in the statistics. -/
  records : monitor.stats.recordsDecoded
    = sumOf (fun protocol => Tally.count monitor.meters.counters (.recordsDecoded protocol)) Protocol.all

namespace Consistent

theorem start (inputs : Nat) : (Monitor.start inputs).Consistent :=
  ⟨Tally.positive_empty, fun counter _ => (Stats.count_start inputs counter.head).symm, rfl⟩

theorem add (h : monitor.Consistent) (counter : Counter) (amount : Nat) :
    (monitor.add counter amount).Consistent := by
  by_cases known : monitor.stats.has counter = true
  · rw [add_of_has known]
    refine ⟨h.positive.add counter amount, ?_, ?_⟩
    · intro other counted
      rw [Meters.add, Tally.count_add, Stats.count_add known, h.alike other counted]
      congr 1
      -- Two counters are counted under one head only if both count records.
      by_cases same : counter = other
      · rw [if_pos same, if_pos (congrArg Counter.head same)]
      · have apart : counter.head ≠ other.head := by
          intro heads
          cases counter <;> cases other <;> simp_all [Counter.head]
        rw [if_neg same, if_neg apart]
    · have records := h.records
      simp only [Protocol.all, sumOf] at records ⊢
      have total := Stats.count_add known amount .recordsDecoded
      simp only [Stats.count] at total
      simp only [Meters.add, Tally.count_add]
      cases counter with
      | recordsDecoded protocol => cases protocol <;> simp [Counter.head] at total ⊢ <;> omega
      | _ =>
        simp [Counter.head] at total ⊢
        omega
  · rw [Monitor.add, if_neg known]
    exact h

theorem setOutgoing (h : monitor.Consistent) (size : Nat) : (monitor.setOutgoing size).Consistent :=
  ⟨h.positive, h.alike, h.records⟩

/-- What is published of a counter: all that was counted, or nothing if that is nothing. By `series_injective` no
other counter adds to it. -/
theorem published? (h : monitor.Consistent) (counter : Counter) :
    monitor.meters.published? counter.series
      = if Tally.count monitor.meters.counters counter = 0 then none
        else some (Tally.count monitor.meters.counters counter) := by
  rw [Meters.published?_series]
  exact h.positive.get? counter

theorem published?_ne_zero (h : monitor.Consistent) (counter : Counter) :
    monitor.meters.published? counter.series ≠ some 0 := by
  rw [h.published?]
  split
  case isTrue => nofun
  case isFalse some =>
    intro zero
    exact some (Option.some.inj zero)

theorem recordsDecoded_eq (h : monitor.Consistent) :
    monitor.stats.recordsDecoded = sumOf (fun protocol =>
      (monitor.meters.published? (Counter.recordsDecoded protocol).series).getD 0) Protocol.all := by
  refine h.records.trans (congrArg (sumOf · Protocol.all) (funext fun protocol => ?_))
  rw [h.published?]
  split
  case isTrue none => exact none
  case isFalse => rfl

theorem recordsDecoded_eq_zero_iff (h : monitor.Consistent) :
    monitor.stats.recordsDecoded = 0
      ↔ ∀ protocol, monitor.meters.published? (Counter.recordsDecoded protocol).series = none := by
  rw [h.records]
  simp only [h.published?, Protocol.all, sumOf, Nat.add_zero, Nat.add_eq_zero_iff]
  constructor
  · rintro ⟨netflow, sflow⟩ protocol
    cases protocol with
    | netflow => exact if_pos netflow
    | sflow => exact if_pos sflow
  · intro none
    have netflow := none .netflow
    have sflow := none .sflow
    simp only [ite_eq_left_iff, reduceCtorEq, imp_false, Decidable.not_not] at netflow sflow
    exact ⟨netflow, sflow⟩

theorem sample (h : monitor.Consistent) (protocol : Protocol) :
    Consistent { monitor with meters := monitor.meters.sample protocol } :=
  ⟨h.positive, h.alike, h.records⟩

end Consistent

/-! ## Counting what came of a datagram -/

variable {protocol : Protocol} {exporter : IpAddress}

/-- What every `add` keeps, and the sample does, is kept when all that came of a datagram is counted. -/
theorem addDecoded_kept {P : Monitor → Prop}
    (add : ∀ {monitor}, P monitor → ∀ counter amount, P (monitor.add counter amount))
    (sampled : P { monitor with meters := monitor.meters.sample protocol }) (decoded : Decoded) :
    P (monitor.addDecoded protocol exporter decoded) := by
  have errors : ∀ (errors : List DecodeError) {monitor : Monitor}, P monitor →
      P (errors.foldl (addError exporter) monitor) := by
    intro errors
    induction errors with
    | nil => exact id
    | cons error others ih =>
      intro monitor kept
      apply ih
      unfold addError
      dsimp only
      split
      · exact add (add kept _ _) _ _
      · exact add kept _ _
  exact add (add (errors decoded.errors sampled) _ _) _ _

theorem Consistent.addDecoded (h : monitor.Consistent) (decoded : Decoded) :
    (monitor.addDecoded protocol exporter decoded).Consistent :=
  addDecoded_kept Consistent.add (h.sample protocol) decoded

theorem length_inputs_addDecoded (monitor : Monitor) (decoded : Decoded) :
    (monitor.addDecoded protocol exporter decoded).stats.inputs.length = monitor.stats.inputs.length := by
  refine addDecoded_kept (P := fun after => after.stats.inputs.length = monitor.stats.inputs.length) ?_ rfl decoded
  intro after same counter amount
  rw [length_inputs_add, same]

theorem decodeSamples_add (monitor : Monitor) (counter : Counter) (amount : Nat) :
    (monitor.add counter amount).meters.decodeSamples = monitor.meters.decodeSamples := by
  unfold add
  split <;> rfl

/-- Each datagram is a sample of the histogram `decodeSamples`. -/
theorem total_decodeSamples_addDecoded (monitor : Monitor) (decoded : Decoded) :
    Tally.total (monitor.addDecoded protocol exporter decoded).meters.decodeSamples
      = Tally.total monitor.meters.decodeSamples + 1 := by
  rw [← Tally.total_add monitor.meters.decodeSamples protocol 1]
  refine addDecoded_kept (P := fun after => Tally.total after.meters.decodeSamples = _) ?_ rfl decoded
  intro after same counter amount
  rw [decodeSamples_add, same]

end Monitor

/-- What a datagram of an exporter adds to the statistics under each head, when its `Decoded` is counted. -/
def Decoded.amount (decoded : Decoded) (exporter : IpAddress) : Head → Nat
  | .received _ => 0
  | .dropped _ => 0
  | .decodeErrors reason => decoded.errors.countP (·.reason == reason)
  | .missingTemplates other => if exporter = other then decoded.missingTemplates else 0
  | .recordsDecoded => decoded.records.length
  | .templatesUpserted => decoded.templatesUpserted

theorem Decoded.amount_append (first second : Decoded) (exporter : IpAddress) (head : Head) :
    (first ++ second).amount exporter head = first.amount exporter head + second.amount exporter head := by
  cases head with
  | received _ => rfl
  | dropped _ => rfl
  | decodeErrors reason => simp [amount]
  | missingTemplates other =>
    simp only [amount, missingTemplates, errors_append, List.countP_append]
    split <;> rfl
  | recordsDecoded => simp [amount]
  | templatesUpserted => simp [amount]

namespace Monitor

variable {protocol : Protocol} {exporter : IpAddress}

theorem count_addError (monitor : Monitor) (error : DecodeError) (head : Head) :
    (addError exporter monitor error).stats.count head
      = monitor.stats.count head + (Decoded.ofError error).amount exporter head := by
  unfold addError
  dsimp only
  split
  case isTrue unknown =>
    rw [count_add rfl, count_add rfl, Nat.add_assoc]
    congr 1
    cases head <;> simp [Counter.head, Decoded.amount, Decoded.ofError, Decoded.ofErrors,
      Decoded.missingTemplates, unknown, List.countP_cons]
  case isFalse known =>
    rw [count_add rfl]
    congr 1
    cases head <;> simp [Counter.head, Decoded.amount, Decoded.ofError, Decoded.ofErrors,
      Decoded.missingTemplates, known, List.countP_cons]

theorem count_foldl_addError (monitor : Monitor) (errors : List DecodeError) (head : Head) :
    (errors.foldl (addError exporter) monitor).stats.count head
      = monitor.stats.count head + (Decoded.ofErrors errors).amount exporter head := by
  induction errors generalizing monitor with
  | nil => cases head <;> simp [Decoded.amount, Decoded.ofErrors, Decoded.missingTemplates]
  | cons error others ih =>
    have first : Decoded.ofErrors (error :: others) = .ofError error ++ .ofErrors others := rfl
    rw [List.foldl_cons, ih, count_addError, first, Decoded.amount_append, Nat.add_assoc]

/-- The statistics count what the datagram adds, its `Decoded.amount`, and nothing else. -/
theorem count_addDecoded (monitor : Monitor) (decoded : Decoded) (head : Head) :
    (monitor.addDecoded protocol exporter decoded).stats.count head
      = monitor.stats.count head + decoded.amount exporter head := by
  unfold addDecoded
  dsimp only
  rw [count_add rfl, count_add rfl, count_foldl_addError]
  cases head <;> simp [Counter.head, Decoded.amount, Decoded.ofErrors, Decoded.missingTemplates]

theorem total_missingTemplates_add (monitor : Monitor) (counter : Counter) (amount : Nat) :
    Tally.total (monitor.add counter amount).stats.missingTemplates
      = Tally.total monitor.stats.missingTemplates
        + match counter with
          | .missingTemplates _ => amount
          | _ => 0 := by
  unfold add
  split
  case isTrue => exact Stats.total_missingTemplates_add monitor.stats counter amount
  case isFalse unknown =>
    cases counter with
    | missingTemplates _ => exact absurd rfl unknown
    | _ => rfl

theorem total_missingTemplates_foldl_addError (monitor : Monitor) (errors : List DecodeError) :
    Tally.total (errors.foldl (addError exporter) monitor).stats.missingTemplates
      = Tally.total monitor.stats.missingTemplates
        + errors.countP fun error => error.reason == .unknownTemplate := by
  induction errors generalizing monitor with
  | nil => rfl
  | cons error others ih =>
    have first : Tally.total (addError exporter monitor error).stats.missingTemplates
        = Tally.total monitor.stats.missingTemplates
          + if error.reason = .unknownTemplate then 1 else 0 := by
      unfold addError
      dsimp only
      split <;> simp [total_missingTemplates_add]
    simp only [List.foldl_cons, ih, first, List.countP_cons, beq_iff_eq]
    omega

/-- All exporters together miss as many templates as there are errors that say so, `Decoded.missingTemplates`. -/
theorem total_missingTemplates_addDecoded (monitor : Monitor) (decoded : Decoded) :
    Tally.total (monitor.addDecoded protocol exporter decoded).stats.missingTemplates
      = Tally.total monitor.stats.missingTemplates + decoded.missingTemplates := by
  unfold addDecoded
  dsimp only
  rw [total_missingTemplates_add, total_missingTemplates_add, total_missingTemplates_foldl_addError]
  rfl

end Monitor

end FlowCollector
