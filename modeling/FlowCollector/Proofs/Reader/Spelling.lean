import FlowCollector.Proofs.Reader
import Mathlib.Data.List.Induction

/-!
# What was read stood there

`Reader.take_append` and the lemmas like it start from what somebody wrote. Here a reader has succeeded on bytes of which nothing
was known, and `Spells` says what they must have been: what it read is written in front of what it leaves. A reader
that made up a value, or left out a byte, does not spell anything.
-/

set_option autoImplicit false

namespace FlowCollector

/-- Bytes are what `Bytes.ofNat` writes for the number they spell, in as many bytes. -/
theorem Bytes.ofNat_toNat (bytes : Bytes) : Bytes.ofNat bytes.length bytes.toNat = bytes := by
  induction bytes using List.reverseRecOn with
  | nil => rfl
  | append_singleton front last ih =>
    have below := last.toNat_lt
    have high : (Bytes.toNat front * 256 + last.toNat) / 256 = Bytes.toNat front := by omega
    have low : (Bytes.toNat front * 256 + last.toNat) % 256 = last.toNat := by omega
    rw [List.length_append, List.length_singleton, Bytes.ofNat, Bytes.toNat_concat, high, low, ih,
      UInt8.ofNat_toNat]

namespace Reader

variable {α β : Type}

/-- What the reader reads is `Written` in front of what it leaves. -/
def Spells (reader : Reader α) (Written : α → Bytes → Prop) : Prop :=
  ∀ bytes value rest, reader bytes = .ok (value, rest) →
    ∃ front, Written value front ∧ bytes = front ++ rest

namespace Spells

theorem mono {P Q : α → Bytes → Prop} {reader : Reader α} (h : Spells reader P)
    (weaker : ∀ value front, P value front → Q value front) : Spells reader Q := by
  intro bytes value rest read
  obtain ⟨front, written, same⟩ := h bytes value rest read
  exact ⟨front, weaker value front written, same⟩

theorem pure {P : α → Bytes → Prop} {value : α} (h : P value []) : Spells (pure value) P := by
  intro bytes _ _ read
  obtain ⟨rfl, rfl⟩ := Prod.mk.inj (Except.ok.inj read)
  exact ⟨[], h, rfl⟩

theorem fail {P : α → Bytes → Prop} (error : DecodeError) : Spells (fail error) P := by
  intro bytes _ _ read
  cases read

theorem bind {Q : α → Bytes → Prop} {P : β → Bytes → Prop} {x : Reader α} {f : α → Reader β}
    (first : Spells x Q)
    (next : ∀ value front, Q value front → Spells (f value) fun result back => P result (front ++ back)) :
    Spells (x >>= f) P := by
  intro bytes result rest read
  obtain ⟨value, middle, readFirst, readNext⟩ := exists_of_bind_ok read
  obtain ⟨front, writtenFirst, rfl⟩ := first _ _ _ readFirst
  obtain ⟨back, writtenNext, rfl⟩ := next value front writtenFirst _ _ _ readNext
  exact ⟨front ++ back, writtenNext, (List.append_assoc ..).symm⟩

theorem take (place : Place) (count : Nat) :
    Spells (take place count) fun value front => value.length = count ∧ front = value := by
  intro bytes _ _ read
  obtain ⟨enough, rfl, rfl⟩ := take_eq_ok read
  exact ⟨_, ⟨List.length_take_of_le enough, rfl⟩, (List.take_append_drop ..).symm⟩

theorem skip (place : Place) (count : Nat) : Spells (skip place count) fun _ front => front.length = count := by
  refine (take place count).bind fun bytes front taken => pure ?_
  obtain ⟨width, rfl⟩ := taken
  rwa [List.append_nil]

theorem u16 (place : Place) :
    Spells (u16 place) fun value front => front = Bytes.ofNat 2 value.toNat := by
  refine (take place 2).bind fun bytes front taken => pure ?_
  obtain ⟨width, rfl⟩ := taken
  have below := Bytes.toNat_lt front
  rw [width] at below
  rw [List.append_nil, UInt16.toNat_ofNat_of_lt' below, ← width, Bytes.ofNat_toNat]

theorem u32 (place : Place) :
    Spells (u32 place) fun value front => front = Bytes.ofNat 4 value.toNat := by
  refine (take place 4).bind fun bytes front taken => pure ?_
  obtain ⟨width, rfl⟩ := taken
  have below := Bytes.toNat_lt front
  rw [width] at below
  rw [List.append_nil, UInt32.toNat_ofNat_of_lt' below, ← width, Bytes.ofNat_toNat]

/-- A look at how much is left takes nothing, so in front it spells no byte. -/
theorem remaining : Spells remaining fun _ front => front = [] := by
  intro bytes _ _ read
  obtain ⟨rfl, rfl⟩ := Prod.mk.inj (Except.ok.inj read)
  exact ⟨[], rfl, rfl⟩

/-- What is written need not be all that `times` reads: `meaning` is what the item says of it. -/
theorem times_meaning {γ : Type} {meaning : γ → α} {P : γ → Prop} {encode : γ → Bytes} {item : Reader α}
    (h : Spells item fun value front => ∃ written, P written ∧ value = meaning written ∧ front = encode written)
    (count : Nat) :
    Spells (Reader.times count item) fun values front =>
      ∃ written : List γ, written.length = count ∧ (∀ one ∈ written, P one)
        ∧ values = written.map meaning ∧ front = written.flatMap encode := by
  induction count with
  | zero => exact pure ⟨[], rfl, by simp, rfl, rfl⟩
  | succ count ih =>
    refine h.bind fun first front own => ih.bind fun others back behind => pure ?_
    obtain ⟨one, holds, rfl, rfl⟩ := own
    obtain ⟨rest, length, hold, rfl, rfl⟩ := behind
    refine ⟨one :: rest, by rw [List.length_cons, length], ?_, rfl, ?_⟩
    · intro value mem
      rcases List.mem_cons.1 mem with rfl | mem
      · exact holds
      · exact hold value mem
    · rw [List.append_nil, List.flatMap_cons]

theorem times {P : α → Prop} {encode : α → Bytes} {item : Reader α}
    (h : Spells item fun value front => P value ∧ front = encode value) (count : Nat) :
    Spells (times count item) fun values front =>
      values.length = count ∧ (∀ value ∈ values, P value) ∧ front = values.flatMap encode := by
  have itself : Spells item fun value front => ∃ written, P written ∧ value = id written ∧ front = encode written :=
    h.mono fun value _ own => ⟨value, own.1, rfl, own.2⟩
  apply (itself.times_meaning count).mono
  rintro _ front ⟨values, length, hold, rfl, same⟩
  rw [List.map_id]
  exact ⟨length, hold, same⟩

/-- The items of a run of `many` are written one behind the other, and what is left of the bytes is behind all of
them. -/
theorem many {P : α → Bytes → Prop} {item : Reader α} (h : Spells item P) (least : Nat) (bytes : Bytes) :
    ∃ fronts rest, List.Forall₂ P (many least item bytes).1 fronts ∧ bytes = fronts.flatten ++ rest := by
  fun_induction Reader.many least item bytes with
  | case1 bytes => exact ⟨[], bytes, .nil, rfl⟩
  | case2 bytes => exact ⟨[], bytes, .nil, rfl⟩
  | case3 bytes enough first middle read progress others ending run ih =>
    obtain ⟨front, written, rfl⟩ := h _ _ _ read
    obtain ⟨fronts, rest, behind, rfl⟩ := ih
    rw [run] at behind
    exact ⟨front :: fronts, rest, .cons written behind, by simp⟩
  | case4 bytes enough first rest read =>
    obtain ⟨front, written, rfl⟩ := h _ _ _ read
    exact ⟨[front], rest, .cons written .nil, by simp⟩

theorem many_encode {P : α → Prop} {encode : α → Bytes} {item : Reader α}
    (h : Spells item fun value front => P value ∧ front = encode value) (least : Nat) (bytes : Bytes) :
    ∃ rest, bytes = (Reader.many least item bytes).1.flatMap encode ++ rest
      ∧ ∀ value ∈ (Reader.many least item bytes).1, P value := by
  obtain ⟨fronts, rest, written, same⟩ := h.many least bytes
  generalize (Reader.many least item bytes).1 = values at written ⊢
  suffices flat : fronts.flatten = values.flatMap encode ∧ ∀ value ∈ values, P value from
    ⟨rest, flat.1 ▸ same, flat.2⟩
  clear same
  induction written with
  | nil => exact ⟨rfl, nofun⟩
  | cons first _ ih =>
    obtain ⟨holds, rfl⟩ := first
    obtain ⟨flat, hold⟩ := ih
    refine ⟨by rw [List.flatten_cons, List.flatMap_cons, flat], ?_⟩
    intro value mem
    rcases List.mem_cons.1 mem with rfl | mem
    · exact holds
    · exact hold value mem

end Spells

/-! ## What could not be read

A reader that fails has read something before, as a rule, and so the reason is told of all of its bytes and not of those
that were left. -/

/-- Whatever the reader fails on is wrong in this way, where `Spells` is about what it does not fail on. -/
def FailsOn (reader : Reader α) (Wrong : Bytes → DecodeError → Prop) : Prop :=
  ∀ bytes error, reader bytes = .error error → Wrong bytes error

namespace FailsOn

theorem pure {Wrong : Bytes → DecodeError → Prop} (value : α) : FailsOn (pure value) Wrong := by
  intro bytes error failed
  cases failed

theorem fail {Wrong : Bytes → DecodeError → Prop} {error : DecodeError} (wrong : ∀ bytes, Wrong bytes error) :
    FailsOn (fail error : Reader α) Wrong := by
  intro bytes own failed
  obtain rfl := Except.error.inj failed
  exact wrong bytes

theorem mono {Wrong Worse : Bytes → DecodeError → Prop} {reader : Reader α} (h : FailsOn reader Wrong)
    (weaker : ∀ bytes error, Wrong bytes error → Worse bytes error) : FailsOn reader Worse :=
  fun _ _ failed => weaker _ _ (h _ _ failed)

/-- A sequence fails in its first step or behind it. What was read in front of the step that fails is still there to
be seen, since it `Spells` its bytes. -/
theorem bind {Written : α → Bytes → Prop} {Wrong : Bytes → DecodeError → Prop} {x : Reader α} {f : α → Reader β}
    (spells : Spells x Written) (first : FailsOn x Wrong)
    (next : ∀ value front, Written value front → FailsOn (f value) fun rest error => Wrong (front ++ rest) error) :
    FailsOn (x >>= f) Wrong := by
  intro bytes error failed
  cases read : x bytes with
  | error own =>
    rw [bind_error read] at failed
    obtain rfl := Except.error.inj failed
    exact first _ _ read
  | ok found =>
    obtain ⟨value, rest⟩ := found
    rw [bind_ok read] at failed
    obtain ⟨front, written, rfl⟩ := spells _ _ _ read
    exact next value front written _ _ failed

/-- If the reason does not hang on the bytes, nothing has to be known of what was read in front. -/
theorem bind_const {Reason : DecodeError → Prop} {x : Reader α} {f : α → Reader β}
    (first : FailsOn x fun _ => Reason) (next : ∀ value, FailsOn (f value) fun _ => Reason) :
    FailsOn (x >>= f) fun _ => Reason := by
  intro bytes error failed
  cases read : x bytes with
  | error own =>
    rw [bind_error read] at failed
    obtain rfl := Except.error.inj failed
    exact first _ _ read
  | ok found =>
    obtain ⟨value, rest⟩ := found
    rw [bind_ok read] at failed
    exact next value _ _ failed

theorem times_const {Reason : DecodeError → Prop} {item : Reader α} (h : FailsOn item fun _ => Reason)
    (count : Nat) : FailsOn (Reader.times count item) fun _ => Reason := by
  induction count with
  | zero => exact pure []
  | succ count ih => exact h.bind_const fun _ => ih.bind_const fun _ => pure _

/-- A run of `many` that ends early ends as its last item failed. -/
theorem many_const {Reason : DecodeError → Prop} {item : Reader α} (h : FailsOn item fun _ => Reason) (least : Nat)
    (bytes : Bytes) {error : DecodeError} (ended : (Reader.many least item bytes).2 = some error) : Reason error := by
  fun_induction Reader.many least item bytes with
  | case1 => cases ended
  | case2 bytes enough own failed =>
    obtain rfl := Option.some.inj ended
    exact h bytes _ failed
  | case3 bytes enough first rest read progress others ending run ih =>
    rw [run] at ih
    exact ih ended
  | case4 => cases ended

theorem upTo_const {Reason : DecodeError → Prop} {item : Reader α} (h : FailsOn item fun _ => Reason) (count : Nat)
    (bytes : Bytes) {error : DecodeError} (ended : (Reader.upTo count item bytes).2 = some error) : Reason error := by
  induction count generalizing bytes with
  | zero => cases ended
  | succ count ih =>
    unfold Reader.upTo at ended
    split at ended
    · rename_i own failed
      obtain rfl := Option.some.inj ended
      exact h bytes _ failed
    · rename_i first rest read
      exact ih rest ended

/-- A look at how much is left knows how much that is: what follows may be taken with the length of the bytes. -/
theorem remaining {Wrong : Bytes → DecodeError → Prop} {f : Nat → Reader α}
    (next : ∀ bytes error, f bytes.length bytes = .error error → Wrong bytes error) :
    FailsOn (Reader.remaining >>= f) Wrong :=
  next

theorem take {Wrong : Bytes → DecodeError → Prop} (place : Place) (count : Nat)
    (wrong : ∀ bytes, bytes.length < count → Wrong bytes (.truncated place count bytes.length)) :
    FailsOn (take place count) Wrong := by
  intro bytes error failed
  unfold Reader.take at failed
  split at failed
  · cases failed
  · rename_i short
    obtain rfl := Except.error.inj failed
    exact wrong bytes (Nat.not_le.1 short)

theorem u16 {Wrong : Bytes → DecodeError → Prop} (place : Place)
    (wrong : ∀ bytes, bytes.length < 2 → Wrong bytes (.truncated place 2 bytes.length)) :
    FailsOn (u16 place) Wrong :=
  bind (Spells.take place 2) (take place 2 wrong) fun _ _ _ => pure _

theorem u32 {Wrong : Bytes → DecodeError → Prop} (place : Place)
    (wrong : ∀ bytes, bytes.length < 4 → Wrong bytes (.truncated place 4 bytes.length)) :
    FailsOn (u32 place) Wrong :=
  bind (Spells.take place 4) (take place 4 wrong) fun _ _ _ => pure _

/-- Of a count of items the first that cannot be read stands behind some that can, and the count was greater than
theirs. -/
theorem times {P : α → Prop} {encode : α → Bytes} {Wrong : Bytes → DecodeError → Prop} {item : Reader α}
    (spells : Spells item fun value front => P value ∧ front = encode value) (h : FailsOn item Wrong) (count : Nat) :
    FailsOn (times count item) fun bytes error =>
      ∃ (values : List α) (rest : Bytes), values.length < count ∧ (∀ value ∈ values, P value)
        ∧ bytes = values.flatMap encode ++ rest ∧ Wrong rest error := by
  induction count with
  | zero => exact pure []
  | succ count ih =>
    refine bind spells (h.mono fun bytes error wrong => ⟨[], bytes, Nat.succ_pos _, by simp, rfl, wrong⟩) ?_
    intro first front own
    obtain ⟨holds, rfl⟩ := own
    refine bind (spells.times count) (ih.mono ?_) fun _ _ _ => pure _
    rintro bytes error ⟨others, rest, fewer, hold, rfl, wrong⟩
    refine ⟨first :: others, rest, Nat.succ_lt_succ fewer, ?_, by simp, wrong⟩
    intro value mem
    rcases List.mem_cons.1 mem with rfl | mem
    · exact holds
    · exact hold value mem

end FailsOn

/-- The other way round: behind written items, one that cannot be read ends the count of `times`. -/
theorem times_fails {encode : α → Bytes} {item : Reader α} {values : List α} {count : Nat} {rest : Bytes}
    {error : DecodeError}
    (written : ∀ value ∈ values, ∀ behind, item (encode value ++ behind) = .ok (value, behind))
    (fewer : values.length < count) (failed : item rest = .error error) :
    times count item (values.flatMap encode ++ rest) = .error error := by
  induction values generalizing count with
  | nil =>
    obtain ⟨count, rfl⟩ := Nat.exists_eq_succ_of_ne_zero (Nat.ne_zero_of_lt fewer)
    exact bind_error failed
  | cons first others ih =>
    obtain ⟨count, rfl⟩ := Nat.exists_eq_succ_of_ne_zero (Nat.ne_zero_of_lt fewer)
    have head := written first List.mem_cons_self (others.flatMap encode ++ rest)
    have tail := ih (fun value mem => written value (List.mem_cons_of_mem first mem)) (Nat.lt_of_succ_lt_succ fewer)
    rw [List.flatMap_cons, List.append_assoc, times, bind_ok head, bind_error tail]

/-! ## A grammar that is all there is -/

/-- The reader goes by a grammar: it reads what is `Written`, it fails on what is `Wrong`, and of bytes that are long
enough there is no third kind. -/
structure Exact (least : Nat) (reader : Reader α) (Written : α → Bytes → Prop) (Wrong : Bytes → DecodeError → Prop) :
    Prop where
  long : ∀ value front, Written value front → least ≤ front.length
  reads : ∀ value front, Written value front → ∀ rest, reader (front ++ rest) = .ok (value, rest)
  fails : ∀ bytes error, Wrong bytes error → reader bytes = .error error
  cases : ∀ bytes, least ≤ bytes.length →
    (∃ value front rest, Written value front ∧ bytes = front ++ rest) ∨ ∃ error, Wrong bytes error

/-- What a run of items falls into by a grammar: items that are `Written`, and then padding or something `Wrong`. -/
inductive Run (least : Nat) (Written : α → Bytes → Prop) (Wrong : Bytes → DecodeError → Prop) :
    Bytes → List α → Option DecodeError → Prop
  /-- Too little is left for any item, and `many` takes it for padding. -/
  | padding {rest : Bytes} (short : rest.length < least) : Run least Written Wrong rest [] none
  /-- There is enough for an item, and what stands there is none. -/
  | wrong {rest : Bytes} {error : DecodeError} (enough : least ≤ rest.length) (wrong : Wrong rest error) :
    Run least Written Wrong rest [] (some error)
  | item {value : α} {front rest : Bytes} {values : List α} {ending : Option DecodeError}
    (written : Written value front) (others : Run least Written Wrong rest values ending) :
    Run least Written Wrong (front ++ rest) (value :: values) ending

/-- What stands in front of the wrong item is items and nothing else, so a `Run` without it ends in padding. -/
theorem Run.exists_of_wrong {least : Nat} {Written : α → Bytes → Prop} {Wrong : Bytes → DecodeError → Prop}
    (positive : 0 < least) {bytes : Bytes} {values : List α} {error : DecodeError}
    (run : Run least Written Wrong bytes values (some error)) :
    ∃ front rest, bytes = front ++ rest ∧ Wrong rest error ∧ Run least Written Wrong front values none := by
  generalize end_is : some error = ending at run
  induction run with
  | padding => cases end_is
  | @wrong rest own _ wrong =>
    obtain rfl := Option.some.inj end_is
    exact ⟨[], rest, rfl, wrong, .padding positive⟩
  | @item value front rest values ending written _ ih =>
    obtain ⟨others, last, rfl, wrong, run⟩ := ih end_is
    exact ⟨front ++ others, last, (List.append_assoc ..).symm, wrong, .item written run⟩

namespace Exact

variable {least : Nat} {reader : Reader α} {Written : α → Bytes → Prop} {Wrong : Bytes → DecodeError → Prop}

theorem of_spells (spells : Spells reader Written)
    (failsOn : FailsOn reader fun bytes error => least ≤ bytes.length → Wrong bytes error)
    (long : ∀ value front, Written value front → least ≤ front.length)
    (reads : ∀ value front, Written value front → ∀ rest, reader (front ++ rest) = .ok (value, rest))
    (fails : ∀ bytes error, Wrong bytes error → reader bytes = .error error) : Exact least reader Written Wrong := by
  refine ⟨long, reads, fails, fun bytes enough => ?_⟩
  cases read : reader bytes with
  | error error => exact .inr ⟨error, failsOn _ _ read enough⟩
  | ok found =>
    obtain ⟨front, written, same⟩ := spells _ _ _ read
    exact .inl ⟨found.1, front, found.2, written, same⟩

theorem many_of_run (exact : Exact least reader Written Wrong) (positive : 0 < least) {bytes : Bytes}
    {values : List α} {ending : Option DecodeError} (run : Run least Written Wrong bytes values ending) :
    many least reader bytes = (values, ending) := by
  induction run with
  | padding short => exact many_short reader short
  | wrong enough wrong =>
    rw [many, if_neg (Nat.not_lt.2 enough), exact.fails _ _ wrong]
  | @item value front rest values ending written _ ih =>
    have long := exact.long _ _ written
    have more : least ≤ (front ++ rest).length := by
      rw [List.length_append]
      omega
    have progress : rest.length < (front ++ rest).length := by
      rw [List.length_append]
      omega
    rw [many_ok more (exact.reads _ _ written rest) progress, ih]

/-- Every run of bytes falls into something, and `many` finds it, if the item is `Exact`. -/
theorem exists_run (exact : Exact least reader Written Wrong) (positive : 0 < least) (bytes : Bytes) :
    ∃ values ending, Run least Written Wrong bytes values ending := by
  induction size : bytes.length using Nat.strongRecOn generalizing bytes with
  | ind size ih =>
    by_cases short : bytes.length < least
    · exact ⟨[], none, .padding short⟩
    · rcases exact.cases bytes (Nat.not_lt.1 short) with ⟨value, front, rest, written, rfl⟩ | ⟨error, wrong⟩
      · have long := exact.long _ _ written
        rw [List.length_append] at size
        obtain ⟨values, ending, others⟩ := ih rest.length (by omega) rest rfl
        exact ⟨value :: values, ending, .item written others⟩
      · exact ⟨[], some error, .wrong (Nat.not_lt.1 short) wrong⟩

/-- There is no other way to take the bytes apart, since what is `Written` and what is `Wrong` exclude each other. -/
theorem run_unique (exact : Exact least reader Written Wrong) (positive : 0 < least) {bytes : Bytes}
    {values others : List α} {ending last : Option DecodeError}
    (run : Run least Written Wrong bytes values ending) (again : Run least Written Wrong bytes others last) :
    others = values ∧ last = ending :=
  Prod.mk.inj ((exact.many_of_run positive again).symm.trans (exact.many_of_run positive run))

end Exact

end Reader

end FlowCollector
