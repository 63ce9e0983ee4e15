import FlowCollector.Proofs.Members
import FlowCollector.Proofs.Netflow.RoundTrip
import FlowCollector.Proofs.Netflow.Segmentation
import FlowCollector.Proofs.Netflow.TemplateSet
import FlowCollector.Proofs.Turns

/-!
# Sets that cannot be used

A data set whose template is not known when its turn comes is lost, and one error says so. A set with a number that
means nothing is passed over. Whether a template is known hangs on what the sets in front have announced and withdrawn,
so it is said of a set at its turn: the same set may be of no use here and of use behind the next announcement.

Such sets do not stand in the way of others. Of the errors of the others none is like that of a set that is lost.
-/

set_option autoImplicit false

namespace FlowCollector.Netflow

/-! ## What other errors there are -/

namespace Announcement

variable {version : Version} {bytes : Bytes} {error : DecodeError}

/-- What is wrong with a field that is `FieldMalformed` is that it is cut off, or long in a way that it cannot be. -/
theorem FieldMalformed.reason_eq (h : FieldMalformed version bytes error) :
    error.reason = .truncated ∨ error.reason = .malformedLength := by
  cases h <;> simp [DecodeError.reason]

theorem FieldsMalformed.reason_eq {count : Nat} (h : FieldsMalformed version count bytes error) :
    error.reason = .truncated ∨ error.reason = .malformedLength := by
  cases h with
  | tooFew => exact .inr rfl
  | field _ _ _ malformed => exact malformed.reason_eq

theorem Malformed.reason_eq {set : UInt16} (h : Malformed version set bytes error) :
    error.reason = .truncated ∨ error.reason = .malformedLength := by
  cases h with
  | fields _ _ malformed => exact malformed.reason_eq
  | optionsFieldsV9 _ _ _ malformed => exact malformed.reason_eq
  | optionsFieldsIpfix _ _ _ malformed => exact malformed.reason_eq
  | lengthsV9 => exact .inr rfl
  | scopeCutOff => exact .inl rfl
  | scopeTooLarge => exact .inr rfl

end Announcement

/-- A record that `split` cannot cut out is cut off. -/
theorem DataRecord.reason_of_split {template : Template} {body : Bytes} {error : DecodeError}
    (ended : (split template body).2 = some error) : error.reason = .truncated := by
  have short : Reader.FailsOn (readValues template.fields) fun _ error => error.reason = .truncated := by
    intro bytes error failed
    obtain ⟨place, needed, available, rfl⟩ := failsShort_readValues _ _ _ failed
    rfl
  exact short.many_const _ _ ended

theorem Reading.reason_ne_of_mem_fieldErrors {reading : Reading} {error : DecodeError}
    (mem : error ∈ reading.fieldErrors) : error.reason ≠ .unknownTemplate := by
  rw [fieldErrors, DataRecord.fill, FieldState.applyFields_eq] at mem
  obtain ⟨field, -, rfl⟩ := List.mem_map.1 mem
  simp [Field.error, DecodeError.reason]

namespace Session

variable (session : Session)

theorem errors_record (template : Template) (values : List Bytes) (store : Store) :
    (session.record template values store).1.errors = (Reading.mk session template values).fieldErrors := by
  let reading : Reading := ⟨session, template, values⟩
  cases kind : template.isOptions with
  | true => exact congrArg (·.1.errors) (reading.record_eq_learned kind store)
  | false => exact congrArg (·.1.errors) (reading.record_eq_message kind store)

/-- A template that is known is not missed later on, whatever the records of the set are: no error of `dataRecords` is
`unknownTemplate`. -/
theorem reason_ne_of_mem_dataRecords {template : Template} {body : Bytes} {store : Store} {error : DecodeError}
    (mem : error ∈ (session.dataRecords template body store).1.errors) : error.reason ≠ .unknownTemplate := by
  unfold dataRecords at mem
  split at mem
  · rw [List.mem_singleton.1 mem]
    simp [DecodeError.reason]
  · simp only [Decoded.errors_append, Decoded.ofErrors, List.mem_append, Decoded.errors_sequence,
      List.mem_flatMap] at mem
    rcases mem with ⟨turn, -, own⟩ | ended
    · rw [Decoded.given, errors_record] at own
      exact Reading.reason_ne_of_mem_fieldErrors own
    · rw [DataRecord.reason_of_split (Option.mem_toList.1 ended)]
      decide

/-! ## Of no use -/

/-- True of a data set whose template is not known when its turn comes. A turn is a set with the store that it
meets. -/
def Unknown (turn : RawSet × Store) : Prop :=
  leastDataSetId ≤ turn.1.id ∧ turn.2.lookup? (session.key turn.1.id) = none

/-- True of a set whose number is kept for later versions: it is not that of a data set, nor one that announces
templates. `Session.set` passes it over. -/
def Reserved (turn : RawSet × Store) : Prop :=
  ¬ leastDataSetId ≤ turn.1.id ∧ turn.1.id ≠ session.version.templateSetId
    ∧ turn.1.id ≠ session.version.optionsTemplateSetId

/-- True of a set that nothing can be made of when its turn comes: it is `Unknown` or `Reserved`. -/
def Unusable (turn : RawSet × Store) : Prop := session.Unknown turn ∨ session.Reserved turn

instance (turn : RawSet × Store) : Decidable (session.Unknown turn) := inferInstanceAs (Decidable (_ ∧ _))

instance (turn : RawSet × Store) : Decidable (session.Reserved turn) := inferInstanceAs (Decidable (_ ∧ _ ∧ _))

/-- The sets of a row, each with the store that it meets when `Session.set` decodes them in turn. -/
abbrev turns (raw : List RawSet) (store : Store) : List (RawSet × Store) := Decoded.turns session.set raw store

/-- What comes of a set at its turn, over the store that it meets. -/
abbrev given (turn : RawSet × Store) : Decoded := Decoded.given session.set turn

variable {session} {turn : RawSet × Store}

theorem set_of_unknown (unknown : session.Unknown turn) :
    session.set turn.1 turn.2 = (.ofError (.unknownTemplate session.domain turn.1.id), turn.2) := by
  obtain ⟨data, missing⟩ := unknown
  rw [set_dataSet session data, dataSet, missing]

theorem set_of_reserved (reserved : session.Reserved turn) : session.set turn.1 turn.2 = (.nothing, turn.2) := by
  obtain ⟨low, notTemplates, notOptions⟩ := reserved
  rw [set, if_neg notTemplates, if_neg notOptions, if_neg low]

theorem set_of_unusable (unusable : session.Unusable turn) :
    (session.given turn).records = [] ∧ (session.given turn).templatesUpserted = 0
      ∧ (session.set turn.1 turn.2).2 = turn.2 := by
  unfold given Decoded.given
  rcases unusable with unknown | reserved
  · rw [set_of_unknown unknown]
    exact ⟨rfl, rfl, rfl⟩
  · rw [set_of_reserved reserved]
    exact ⟨rfl, rfl, rfl⟩

/-- A set that announces templates tells of what ends it, and of nothing else, and that is no missing template. -/
theorem exists_errors_set_eq {id : UInt16}
    (own : id = session.version.templateSetId ∨ id = session.version.optionsTemplateSetId) (body : Bytes)
    (store : Store) :
    ∃ ending : Option DecodeError, (session.set ⟨id, body⟩ store).1.errors = ending.toList
      ∧ ∀ error, ending = some error → error.reason = .truncated ∨ error.reason = .malformedLength := by
  have positive := Announcement.leastRecord_pos session.version id
  obtain ⟨said, ending, parts⟩ := (Announcement.exact_readRecord own).exists_run positive body
  refine ⟨ending, by rw [set_eq_asking own parts], ?_⟩
  rintro error rfl
  obtain ⟨_, _, _, malformed, _⟩ := parts.exists_of_wrong positive
  exact malformed.reason_eq

/-- Only a set that is `Unknown` says that a template is missing. -/
theorem reason_ne_of_mem_given (known : ¬ session.Unknown turn) {error : DecodeError}
    (mem : error ∈ (session.given turn).errors) : error.reason ≠ .unknownTemplate := by
  obtain ⟨⟨id, body⟩, store⟩ := turn
  unfold given Decoded.given at mem
  by_cases own : id = session.version.templateSetId ∨ id = session.version.optionsTemplateSetId
  · obtain ⟨ending, told, malformed⟩ := exists_errors_set_eq own body store
    rw [told] at mem
    rcases malformed error (Option.mem_toList.1 mem) with reason | reason
    all_goals
      rw [reason]
      decide
  by_cases data : leastDataSetId ≤ id
  · cases found : store.lookup? (session.key id) with
    | none => exact absurd ⟨data, found⟩ known
    | some template =>
      rw [set_dataSet session data] at mem
      unfold dataSet at mem
      rw [found] at mem
      exact session.reason_ne_of_mem_dataRecords mem
  · obtain ⟨notTemplates, notOptions⟩ := not_or.1 own
    have reserved : session.Reserved (⟨id, body⟩, store) := ⟨data, notTemplates, notOptions⟩
    rw [set_of_reserved reserved] at mem
    cases mem

/-- Of the errors of a set, those that say that a template is missing are one if the set is `Unknown`, or none. -/
theorem filter_errors_given (turn : RawSet × Store) :
    (session.given turn).errors.filter (·.reason == .unknownTemplate)
      = if session.Unknown turn then [.unknownTemplate session.domain turn.1.id] else [] := by
  by_cases unknown : session.Unknown turn
  · rw [if_pos unknown, given, Decoded.given, set_of_unknown unknown]
    rfl
  · rw [if_neg unknown, List.filter_eq_nil_iff]
    intro error mem
    simpa using reason_ne_of_mem_given unknown mem

theorem filter_errors_turns (turns : List (RawSet × Store)) :
    (turns.flatMap fun turn => (session.given turn).errors).filter (·.reason == .unknownTemplate)
      = (turns.filter fun turn => session.Unknown turn).map fun turn =>
          .unknownTemplate session.domain turn.1.id := by
  induction turns with
  | nil => rfl
  | cons turn others ih =>
    rw [List.flatMap_cons, List.filter_append, filter_errors_given, ih, List.filter_cons]
    by_cases unknown : session.Unknown turn
    · rw [if_pos unknown, if_pos (decide_eq_true unknown)]
      rfl
    · rw [if_neg unknown, if_neg (by simpa using unknown)]
      rfl

end Session

/-- A row of complete sets costs one missing template for each data set that is `Unknown` at its turn, and the error
names the template. Without such sets, or sets that are `Reserved`, whichever of them go, every other set has the turn
that it had: the records, the templates announced and the store in the end are the same, and the errors are those of
the turns that are left. -/
theorem sets_without_unusable (session : Session) {raw : List RawSet} (fit : ∀ set ∈ raw, set.Fits) (store : Store) :
    let turns := session.turns raw store
    let whole := session.sets (raw.flatMap RawSet.encode) store
    whole.1.missingTemplates = turns.countP (fun turn => session.Unknown turn)
      ∧ whole.1.errors.filter (·.reason == .unknownTemplate)
          = (turns.filter fun turn => session.Unknown turn).map
              (fun turn => .unknownTemplate session.domain turn.1.id)
      ∧ whole.1.errors = turns.flatMap (fun turn => (session.given turn).errors)
      ∧ (∀ turn, session.Unknown turn →
          (session.given turn).errors = [.unknownTemplate session.domain turn.1.id])
      ∧ (∀ turn, session.Reserved turn → (session.given turn).errors = [])
      ∧ ∀ kept, Thinned session.Unusable turns kept →
          let left := session.sets ((kept.map Prod.fst).flatMap RawSet.encode) store
          session.turns (kept.map Prod.fst) store = kept
            ∧ left.1.records = whole.1.records
            ∧ left.1.templatesUpserted = whole.1.templatesUpserted
            ∧ left.2 = whole.2
            ∧ left.1.errors = kept.flatMap (fun turn => (session.given turn).errors) := by
  intro turns whole
  have row : whole = Decoded.sequence session.set raw store := session.sets_written fit store
  have told : whole.1.errors = turns.flatMap fun turn => (session.given turn).errors := by
    rw [row]
    exact Decoded.errors_sequence session.set raw store
  have missed := congrArg (List.filter (·.reason == .unknownTemplate)) told
  rw [Session.filter_errors_turns] at missed
  refine ⟨?_, missed, told, fun turn unknown => ?_, fun turn reserved => ?_, fun kept thinned => ?_⟩
  · rw [Decoded.missingTemplates, List.countP_eq_length_filter, missed, List.length_map, List.countP_eq_length_filter]
  · rw [Session.given, Decoded.given, Session.set_of_unknown unknown]
    rfl
  · rw [Session.given, Decoded.given, Session.set_of_reserved reserved]
    rfl
  · obtain ⟨same, final⟩ :=
      Decoded.turns_of_thinned (fun turn unusable => (Session.set_of_unusable unusable).2.2) thinned
    have fewer : ∀ set ∈ kept.map Prod.fst, set.Fits := fun set mem =>
      fit set (Decoded.map_fst_turns session.set raw store ▸ (thinned.sublist.map Prod.fst).subset mem)
    rw [session.sets_written fewer, row]
    refine ⟨same, ?_, ?_, final, ?_⟩
    · rw [Decoded.records_sequence, Decoded.records_sequence, same]
      exact thinned.flatMap_eq fun turn unusable => (Session.set_of_unusable unusable).1
    · rw [Decoded.templatesUpserted_sequence, Decoded.templatesUpserted_sequence, same]
      exact thinned.sumOf_eq fun turn unusable => (Session.set_of_unusable unusable).2.1
    · rw [Decoded.errors_sequence, same]

/-- A data set comes before its template is announced, once while it holds, and once more when it has been withdrawn.
Two of three are lost, and without the first of them and a reserved set the record is still there and the last is
still lost. -/
theorem sets_without_unusable_withdrawn :
    let session : Session := ⟨.ipfix, .v4 ⟨192, 0, 2, 1⟩, 7, 0⟩
    let data : RawSet := ⟨256, [10, 0, 0, 1]⟩
    let reserved : RawSet := ⟨255, [1, 0, 0, 1]⟩
    let announcing : RawSet := ⟨2, [1, 0, 0, 1, 0, 8, 0, 4]⟩
    let withdrawing : RawSet := ⟨2, [1, 0, 0, 0]⟩
    let raw := [data, reserved, announcing, data, withdrawing, data]
    let whole := session.sets (raw.flatMap RawSet.encode) ∅
    let left := session.sets ((raw.drop 2).flatMap RawSet.encode) ∅
    (∀ set ∈ raw, set.Fits)
      ∧ Thinned session.Unusable (session.turns raw ∅) ((session.turns raw ∅).drop 2)
      ∧ whole.1.missingTemplates = 2 ∧ whole.1.records.length = 1
      ∧ whole.1.errors = [.unknownTemplate 7 256, .unknownTemplate 7 256]
      ∧ left.1.records = whole.1.records ∧ left.1.templatesUpserted = whole.1.templatesUpserted
      ∧ left.2 = whole.2 ∧ left.1.errors = [.unknownTemplate 7 256] := by
  intro session data reserved announcing withdrawing raw whole left
  have fit : ∀ set ∈ raw, set.Fits := by decide
  have unknown : session.Unknown (data, ∅) := by decide
  have passed : session.Reserved (reserved, ∅) := by decide
  have thinned : Thinned session.Unusable (session.turns raw ∅) ((session.turns raw ∅).drop 2) :=
    .leave (.inl unknown) (.leave (.inr passed) (.refl _))
  obtain ⟨missing, -, -, -, -, without⟩ := sets_without_unusable session fit ∅
  obtain ⟨-, records, upserted, final, errors⟩ := without _ thinned
  refine ⟨fit, thinned, missing.trans (by decide +kernel), by decide +kernel, by decide +kernel, records, upserted,
    final, errors.trans (by decide +kernel)⟩

end FlowCollector.Netflow
