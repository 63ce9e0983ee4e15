import FlowCollector.Proofs.Evolution

/-!
# Datagrams that are cut off

A datagram may lose its end on the way. What is left is decoded as far as it goes, and what comes of it is the
beginning of what the whole would have given: nothing is read differently because something behind it is missing.
That is so because each part is taken as a whole or not at all, and because the length that a message of IPFIX declares
only ever takes bytes away from it.
-/

set_option autoImplicit false

namespace FlowCollector

/-- What comes of a part that is cut off, next to what comes of the whole: the first of its records, and no more
templates. The errors may be others. -/
structure Decoded.CutFrom (part whole : Decoded) : Prop where
  records : part.records <+: whole.records
  templatesUpserted : part.templatesUpserted ≤ whole.templatesUpserted

namespace Decoded.CutFrom

variable {part whole more : Decoded}

theorem refl (decoded : Decoded) : CutFrom decoded decoded :=
  ⟨List.prefix_rfl, Nat.le_refl _⟩

/-- Nothing but errors is cut from anything, so a part that is refused as a whole is `CutFrom` it. -/
theorem of_ofErrors (errors : List DecodeError) (whole : Decoded) : CutFrom (.ofErrors errors) whole :=
  ⟨List.nil_prefix, Nat.zero_le _⟩

theorem of_append (part more : Decoded) : CutFrom part (part ++ more) :=
  ⟨List.prefix_append _ _, Nat.le_add_right _ _⟩

/-- Errors that stand behind what was decoded have no part in `CutFrom`. -/
theorem withErrorsBehind (h : CutFrom part whole) (errors errors' : List DecodeError) :
    CutFrom (part ++ .ofErrors errors) (whole ++ .ofErrors errors') := by
  obtain ⟨records, templatesUpserted⟩ := h
  constructor
  · simpa [ofErrors] using records
  · simpa [ofErrors] using templatesUpserted

theorem withErrorsBefore (h : CutFrom part whole) (errors errors' : List DecodeError) :
    CutFrom (.ofErrors errors ++ part) (.ofErrors errors' ++ whole) := by
  obtain ⟨records, templatesUpserted⟩ := h
  constructor
  · simpa [ofErrors] using records
  · simpa [ofErrors] using templatesUpserted

theorem sequence {α σ : Type} (step : α → σ → Decoded × σ) {front items : List α} (h : front <+: items)
    (memory : σ) :
    CutFrom (Decoded.sequence step front memory).1 (Decoded.sequence step items memory).1 := by
  obtain ⟨back, rfl⟩ := h
  rw [sequence_append]
  exact of_append _ _

end Decoded.CutFrom

open Decoded (CutFrom)

namespace Netflow

/-! ## Version 5 -/

namespace Version5

theorem Header.local_read : Reader.Local Header.read := by
  apply (Reader.Local.take _ _).bind
  intro header
  cases readFields.run header with
  | error error => exact .fail error
  | ok found => exact .pure found.1

theorem cutFrom_decode (exporter : IpAddress) (timeReceived : UInt64) (front back : Bytes) :
    CutFrom (decode exporter timeReceived front) (decode exporter timeReceived (front ++ back)) := by
  have upserted := Version5.templatesUpserted_decode exporter timeReceived front
  refine ⟨?_, upserted ▸ Nat.zero_le _⟩
  unfold decode
  cases read : Header.read.run front with
  | error error => exact List.nil_prefix
  | ok found =>
    obtain ⟨header, rest⟩ := found
    have whole : Header.read.run (front ++ back) = .ok (header, rest ++ back) :=
      Header.local_read _ _ _ read back
    rw [whole]
    dsimp only
    obtain ⟨others, cut⟩ := (Reader.Local.take .v5Record recordLength).upTo_isPrefix
      header.count.toNat rest back
    rw [Decoded.records_foldr, Decoded.records_foldr, ← cut, List.map_append, List.flatMap_append]
    simp only [Decoded.ofErrors, List.append_nil]
    exact List.prefix_append _ _

end Version5

/-! ## Messages of sets -/

namespace Body

theorem local_ofV9 : Reader.Local ofV9 := by
  apply (Reader.Local.take _ _).bind
  intro header
  cases v9HeaderFields.run header with
  | error error => exact .fail error
  | ok found => exact .pure found.1

theorem local_ofIpfix : Reader.Local ofIpfix := by
  apply (Reader.Local.take _ _).bind
  intro header
  cases ipfixHeaderFields.run header with
  | error error => exact .fail error
  | ok found => exact .pure found.1

theorem ofPayload_v9_append {front : Bytes} {part : Body} (h : ofPayload .v9 front = .ok part) (back : Bytes) :
    ∃ whole, ofPayload .v9 (front ++ back) = .ok whole ∧ whole.domain = part.domain
      ∧ part.sets <+: whole.sets := by
  cases read : ofV9.run front with
  | error error =>
    simp only [ofPayload, read] at h
    cases h
  | ok found =>
    obtain ⟨domain, rest⟩ := found
    simp only [ofPayload, read] at h
    obtain rfl := Except.ok.inj h
    have whole : ofV9.run (front ++ back) = .ok (domain, rest ++ back) := local_ofV9 _ _ _ read back
    refine ⟨{ domain, sets := rest ++ back }, ?_, rfl, List.prefix_append _ _⟩
    simp only [ofPayload, whole]
    rfl

theorem ofPayload_ipfix_append {front : Bytes} {part : Body} (h : ofPayload .ipfix front = .ok part)
    (back : Bytes) :
    ∃ whole, ofPayload .ipfix (front ++ back) = .ok whole ∧ whole.domain = part.domain
      ∧ part.sets <+: whole.sets := by
  cases read : ofIpfix.run front with
  | error error =>
    simp only [ofPayload, read] at h
    cases h
  | ok found =>
    obtain ⟨⟨length, domain⟩, rest⟩ := found
    have whole : ofIpfix.run (front ++ back) = .ok ((length, domain), rest ++ back) :=
      local_ofIpfix _ _ _ read back
    have size : front.length = ipfixHeaderLength + rest.length := by
      obtain ⟨enough, -, -, behind⟩ := eq_of_ofIpfix_ok read
      rw [behind, List.length_drop]
      exact (Nat.add_sub_cancel' enough).symm
    rw [ofPayload_ipfix read] at h
    rw [ofPayload_ipfix whole]
    -- Where the message ends depends on whether its end lies in the front, beyond it, or beyond all.
    by_cases short : length < ipfixHeaderLength
    · rw [if_pos short] at h
      cases h
    rw [if_neg short] at h ⊢
    by_cases within : front.length < length
    · rw [if_pos within] at h
      obtain rfl := Except.ok.inj h
      by_cases beyond : (front ++ back).length < length
      · rw [if_pos beyond]
        exact ⟨_, rfl, rfl, List.prefix_append _ _⟩
      · rw [if_neg beyond]
        refine ⟨_, rfl, rfl, ?_⟩
        show rest <+: (rest ++ back).take (length - ipfixHeaderLength)
        rw [List.take_append]
        rw [List.take_of_length_le (by omega)]
        exact List.prefix_append _ _
    · rw [if_neg within] at h
      obtain rfl := Except.ok.inj h
      have inside : ¬ (front ++ back).length < length := by
        rw [List.length_append]
        omega
      rw [if_neg inside]
      refine ⟨_, rfl, rfl, ?_⟩
      have same : (rest ++ back).take (length - ipfixHeaderLength) = rest.take (length - ipfixHeaderLength) :=
        List.take_append_of_le_length (by omega)
      exact ⟨[], (List.append_nil _).trans same.symm⟩

/-- A header that is there is the header of the whole. Behind it is the beginning of the whole row of sets, also where
the message of IPFIX declares a length. -/
theorem ofPayload_append {version : Version} {front : Bytes} {part : Body}
    (h : ofPayload version front = .ok part) (back : Bytes) :
    ∃ whole, ofPayload version (front ++ back) = .ok whole ∧ whole.domain = part.domain
      ∧ part.sets <+: whole.sets := by
  cases version with
  | v9 => exact ofPayload_v9_append h back
  | ipfix => exact ofPayload_ipfix_append h back

end Body

theorem Session.cutFrom_sets (session : Session) {front sets : Bytes} (h : front <+: sets) (store : Store) :
    CutFrom (session.sets front store).1 (session.sets sets store).1 := by
  obtain ⟨back, rfl⟩ := h
  have cut := RawSet.local_read.many_isPrefix RawSet.headerLength front back
  exact (CutFrom.sequence session.set cut store).withErrorsBehind _ _

theorem cutFrom_decodeMessage (version : Version) (exporter : IpAddress) (timeReceived : UInt64)
    (front back : Bytes) (store : Store) :
    CutFrom (decodeMessage version exporter timeReceived front store).1
      (decodeMessage version exporter timeReceived (front ++ back) store).1 := by
  unfold decodeMessage
  cases read : Body.ofPayload version front with
  | error error => exact .of_ofErrors [error] _
  | ok part =>
    obtain ⟨whole, readWhole, domain, sets⟩ := Body.ofPayload_append read back
    rw [readWhole]
    dsimp only
    rw [domain]
    exact (Session.cutFrom_sets _ sets store).withErrorsBefore _ _

/-! ## Datagrams -/

/-- Of a datagram that is cut off `decode` makes the first of the records that it makes of the whole, over whatever
store, and no more templates are stored. -/
theorem records_of_truncated {part payload : Bytes} (cut : part <+: payload) (exporter : IpAddress)
    (timeReceived : UInt64) (store : Store) :
    let truncated := (decode exporter timeReceived part store).1
    let whole := (decode exporter timeReceived payload store).1
    truncated.records <+: whole.records ∧ truncated.templatesUpserted ≤ whole.templatesUpserted := by
  obtain ⟨back, rfl⟩ := cut
  suffices kept : CutFrom (decode exporter timeReceived part store).1
      (decode exporter timeReceived (part ++ back) store).1 from ⟨kept.records, kept.templatesUpserted⟩
  unfold decode
  cases read : (Reader.u16 .header).run part with
  | error error => exact .of_ofErrors [error] _
  | ok found =>
    obtain ⟨version, rest⟩ := found
    have whole : (Reader.u16 .header).run (part ++ back) = .ok (version, rest ++ back) :=
      Reader.Local.u16 .header _ _ _ read back
    rw [whole]
    dsimp only
    split
    · exact Version5.cutFrom_decode exporter timeReceived part back
    · split
      · exact cutFrom_decodeMessage .v9 exporter timeReceived part back store
      · split
        · exact cutFrom_decodeMessage .ipfix exporter timeReceived part back store
        · exact .refl _

/-- A message of IPFIX that announces a template, sends two records by it and announces another: it is cut off in the
set of the records, whose length is then wrong, and of which nothing is read. Cut off in the last set it has lost
nothing but the second template. -/
theorem records_of_truncated_in_set :
    let exporter : IpAddress := .v4 ⟨192, 0, 2, 1⟩
    let header : Header := ⟨.ipfix, 7, List.replicate 8 0, rfl⟩
    let payload := header.message (RawSet.encode ⟨2, [1, 0, 0, 1, 0, 8, 0, 4]⟩
      ++ RawSet.encode ⟨256, [10, 0, 0, 1, 10, 0, 0, 2]⟩ ++ RawSet.encode ⟨2, [1, 1, 0, 1, 0, 8, 0, 4]⟩)
    let came (count : Nat) := (decode exporter 0 (payload.take count) ∅).1
    payload.length = 52 ∧ payload.take 39 <+: payload ∧ payload.take 51 <+: payload
      ∧ ((came 39).records.length, (came 39).templatesUpserted) = (0, 1)
      ∧ ((came 51).records.length, (came 51).templatesUpserted) = (2, 1)
      ∧ (decode exporter 0 payload ∅).1.templatesUpserted = 2
      ∧ (came 51).records <+: (decode exporter 0 payload ∅).1.records := by
  intro exporter header payload came
  have cut : payload.take 51 <+: payload := List.take_prefix _ _
  exact ⟨by decide, List.take_prefix _ _, cut, by decide +kernel, by decide +kernel, by decide +kernel,
    (records_of_truncated cut exporter 0 ∅).1⟩

end Netflow

end FlowCollector
