import FlowCollector.Proofs.Netflow.Framing

/-!
# Datagrams cut at set borders

Whether an exporter sends its sets in one datagram or in several makes no difference to what is decoded,
as long as it cuts between sets and sends them in the same order. The last piece may be anything: a set
whose length fits nothing ends the row, so it can only stand at the end.
-/

set_option autoImplicit false

namespace FlowCollector

/-- Parts are decoded alike by two functions that agree on each of them, whatever the memory. -/
theorem Decoded.sequence_congr {α σ : Type} {part other : α → σ → Decoded × σ} {items : List α}
    (agree : ∀ item ∈ items, ∀ memory, part item memory = other item memory) (memory : σ) :
    sequence part items memory = sequence other items memory := by
  induction items generalizing memory with
  | nil => rfl
  | cons first others ih =>
    have tail := ih fun item mem => agree item (List.mem_cons_of_mem first mem)
    simp only [sequence, agree first List.mem_cons_self, tail]

theorem Decoded.sequence_map {α β σ : Type} (part : β → σ → Decoded × σ) (shape : α → β) (items : List α)
    (memory : σ) : sequence part (items.map shape) memory = sequence (fun item => part (shape item)) items memory := by
  induction items generalizing memory with
  | nil => rfl
  | cons first others ih => simp only [List.map_cons, sequence, ih]

/-- True when each part finds what it needs in the memory as it is when the turn comes to it, in `sequence`. -/
def Decoded.Meets {α σ : Type} (part : α → σ → Decoded × σ) (Needs : α → σ → Prop) : List α → σ → Prop
  | [], _ => True
  | item :: others, memory => Needs item memory ∧ Meets part Needs others (part item memory).2

instance Decoded.decidableMeets {α σ : Type} {part : α → σ → Decoded × σ} {Needs : α → σ → Prop}
    [∀ item memory, Decidable (Needs item memory)] : (items : List α) → (memory : σ) →
    Decidable (Meets part Needs items memory)
  | [], _ => isTrue trivial
  | item :: others, memory =>
    have : Decidable (Meets part Needs others (part item memory).2) := decidableMeets others _
    inferInstanceAs (Decidable (Needs item memory ∧ Meets part Needs others (part item memory).2))

/-- It is enough that they agree on what is met (`Meets`). Being in step so far, both meet the same. -/
theorem Decoded.sequence_congr_of_meets {α σ : Type} {part other : α → σ → Decoded × σ} {Needs : α → σ → Prop}
    {items : List α} {memory : σ} (meets : Meets part Needs items memory)
    (agree : ∀ item ∈ items, ∀ memory, Needs item memory → part item memory = other item memory) :
    sequence part items memory = sequence other items memory := by
  induction items generalizing memory with
  | nil => rfl
  | cons first others ih =>
    obtain ⟨needed, later⟩ := meets
    have tail := ih later fun item mem => agree item (List.mem_cons_of_mem first mem)
    simp only [sequence, ← agree first List.mem_cons_self memory needed, tail]

namespace Netflow

/-- A row of sets is decoded piece by piece, wherever between its `Complete` sets it is cut. -/
theorem Session.sets_flatten (session : Session) {pieces : List Bytes}
    (complete : ∀ piece ∈ pieces, Complete piece) (last : Bytes) (store : Store) :
    session.sets (pieces.flatten ++ last) store
      = Decoded.sequence session.sets (pieces ++ [last]) store := by
  induction pieces generalizing store with
  | nil => exact Prod.ext (Decoded.append_nothing _).symm rfl
  | cons piece others ih =>
    have front := complete piece List.mem_cons_self
    have behind := ih fun piece' mem => complete piece' (List.mem_cons_of_mem piece mem)
    rw [List.flatten_cons, List.append_assoc, session.sets_append front, behind]
    rfl

theorem Header.Fits.mono {header : Header} {sets part : Bytes} (fits : header.Fits sets)
    (h : part.length ≤ sets.length) : header.Fits part := by
  intro ipfix
  have := fits ipfix
  omega

/-- The pieces of a row are no longer than the row, so what fits the length of a message as a whole does in pieces. -/
theorem length_le_of_mem_pieces {pieces : List Bytes} {last piece : Bytes}
    (mem : piece ∈ pieces ++ [last]) : piece.length ≤ (pieces.flatten ++ last).length := by
  rw [List.length_append]
  rcases List.mem_append.1 mem with inside | behind
  · have := (List.sublist_flatten_of_mem inside).length_le
    omega
  · rw [List.mem_singleton.1 behind]
    omega

/-- Sets are decoded by `Session.sets` one after another, and nothing passes from one to the next but the store. First
in one message: what stands behind sets that are `Complete` is decoded as if it stood alone. Then across messages: a
datagram cut at set borders gives what its pieces give, each under the same header. -/
theorem sets_compose :
    (∀ (session : Session) (store : Store) (front back : Bytes), Complete front →
      let first := session.sets front store
      let second := session.sets back first.2
      let whole := session.sets (front ++ back) store
      whole.1.records = first.1.records ++ second.1.records
        ∧ whole.1.errors = first.1.errors ++ second.1.errors
        ∧ whole.1.templatesUpserted = first.1.templatesUpserted + second.1.templatesUpserted
        ∧ whole.2 = second.2)
    ∧ ∀ (header : Header) (exporter : IpAddress) (timeReceived : UInt64) (store : Store)
        (pieces : List Bytes) (last : Bytes),
        (∀ piece ∈ pieces, Complete piece) → header.Fits (pieces.flatten ++ last) →
        decode exporter timeReceived (header.message (pieces.flatten ++ last)) store
          = Decoded.sequence (fun sets => decode exporter timeReceived (header.message sets))
              (pieces ++ [last]) store := by
  constructor
  · intro session store front back complete
    simp only [session.sets_append complete back store, Decoded.records_append,
      Decoded.errors_append, Decoded.templatesUpserted_append, and_self]
  · intro header exporter timeReceived store pieces last complete fits
    rw [Header.decode_message fits, Session.sets_flatten _ complete]
    -- A piece is no longer than the whole, so its length can be declared too.
    refine Decoded.sequence_congr (fun piece mem memory => ?_) store
    exact (Header.decode_message (fits.mono (length_le_of_mem_pieces mem)) _ _ _).symm

/-- A template, a record that needs it and a set that is cut off, sent in one datagram or in three: the
record is decoded either way, and the set that is cut off is one error. -/
theorem sets_compose_template_then_record :
    let header : Header := ⟨.v9, 7, List.replicate 14 0, rfl⟩
    let exporter : IpAddress := .v4 ⟨192, 0, 2, 1⟩
    let session := header.session exporter 0
    let announcing := RawSet.encode ⟨0, [1, 0, 0, 1, 0, 8, 0, 4]⟩
    let data := RawSet.encode ⟨256, [10, 0, 0, 1]⟩
    let whole := decode exporter 0 (header.message ([announcing, data].flatten ++ [1, 44, 0, 99])) ∅
    (∀ piece ∈ [announcing, data], Complete piece)
      ∧ header.Fits ([announcing, data].flatten ++ [1, 44, 0, 99])
      ∧ whole.1.records.length = 1
      ∧ whole.1.errors = [.truncated .set 95 0]
      ∧ (session.sets (announcing ++ data) ∅).1.records
        = (session.sets announcing ∅).1.records
          ++ (session.sets data (session.sets announcing ∅).2).1.records
      ∧ whole = Decoded.sequence (fun sets => decode exporter 0 (header.message sets))
          ([announcing, data] ++ [[1, 44, 0, 99]]) ∅ := by
  intro header exporter session announcing data whole
  have announced : Complete announcing := .single (by decide)
  have complete : ∀ piece ∈ [announcing, data], Complete piece := by
    intro piece mem
    rcases List.mem_cons.1 mem with rfl | mem
    · exact announced
    · rw [List.mem_singleton.1 mem]
      exact .single (by decide)
  have fits : header.Fits ([announcing, data].flatten ++ [1, 44, 0, 99]) := fun ipfix => nomatch ipfix
  refine ⟨complete, fits, by decide +kernel, by decide +kernel, ?_, ?_⟩
  · exact (sets_compose.1 session ∅ announcing data announced).1
  · exact sets_compose.2 header exporter 0 ∅ [announcing, data] [1, 44, 0, 99] complete fits

end Netflow

end FlowCollector
