import FlowCollector.Proofs.Reader

/-!
# What holds of a reader on any bytes

`Reader.take_append` and the lemmas like it are about bytes that somebody wrote. Here nothing is known of the bytes,
and a reader is known by what holds of it whatever it is given:

* `Gives P`: what it reads satisfies `P`;
* `Local`: what it reads does not hang on the bytes behind, which it leaves as they are;
* `FailsShort`: it fails for want of bytes, and not because it dislikes one.

Each of them is kept by putting steps in sequence, so a reader has it if its steps have it. Nothing is
said of a reader that fails, `FailsShort` apart.
-/

set_option autoImplicit false

namespace FlowCollector.Reader

variable {α β : Type}

/-! ## What is read -/

/-- Whatever the reader reads satisfies the property. It may still fail. -/
def Gives (reader : Reader α) (P : α → Prop) : Prop :=
  ∀ bytes value rest, reader bytes = .ok (value, rest) → P value

namespace Gives

theorem anything (reader : Reader α) : Gives reader fun _ => True :=
  fun _ _ _ _ => trivial

theorem mono {P Q : α → Prop} {reader : Reader α} (h : Gives reader P)
    (weaker : ∀ value, P value → Q value) : Gives reader Q :=
  fun _ _ _ read => weaker _ (h _ _ _ read)

theorem pure {P : α → Prop} {value : α} (h : P value) : Gives (pure value) P := by
  intro bytes _ _ read
  obtain ⟨rfl, -⟩ := Prod.mk.inj (Except.ok.inj read)
  exact h

theorem fail {P : α → Prop} (error : DecodeError) : Gives (fail error) P := by
  intro bytes _ _ read
  cases read

theorem bind {Q : α → Prop} {P : β → Prop} {x : Reader α} {f : α → Reader β} (first : Gives x Q)
    (next : ∀ value, Q value → Gives (f value) P) : Gives (x >>= f) P := by
  intro bytes result rest read
  obtain ⟨value, behind, front, back⟩ := exists_of_bind_ok read
  exact next value (first _ _ _ front) _ _ _ back

theorem take (place : Place) (count : Nat) :
    Gives (take place count) fun bytes => bytes.length = count := by
  intro bytes _ _ read
  obtain ⟨enough, rfl, -⟩ := take_eq_ok read
  exact List.length_take_of_le enough

/-- A step whose value the property does not hang on, in front of one that `Gives` it. -/
theorem skip {P : β → Prop} {x : Reader α} {f : α → Reader β} (next : ∀ value, Gives (f value) P) :
    Gives (x >>= f) P :=
  (anything x).bind fun value _ => next value

theorem times {P : α → Prop} {item : Reader α} (h : Gives item P) (count : Nat) :
    Gives (times count item) fun values => values.length = count ∧ ∀ value ∈ values, P value := by
  induction count with
  | zero => exact Gives.pure ⟨rfl, by simp⟩
  | succ count ih =>
    refine h.bind fun first own => ih.bind fun others behind => Gives.pure ⟨?_, ?_⟩
    · rw [List.length_cons, behind.1]
    · intro value mem
      rcases List.mem_cons.1 mem with rfl | mem
      · exact own
      · exact behind.2 value mem

theorem many {P : α → Prop} {item : Reader α} (h : Gives item P) (least : Nat) (bytes : Bytes) :
    ∀ value ∈ (many least item bytes).1, P value := by
  fun_induction Reader.many least item bytes with
  | case1 => simp
  | case2 => simp
  | case3 bytes enough first rest read progress others ending run ih =>
    intro value mem
    rcases List.mem_cons.1 mem with rfl | mem
    · exact h _ _ _ read
    · exact ih value (run ▸ mem)
  | case4 bytes enough first rest read =>
    intro value mem
    rw [List.mem_singleton.1 mem]
    exact h _ _ _ read

end Gives

/-! ## What the bytes behind have to do with it -/

/-- A reader that is done with some bytes is done with them alike when more stand behind. `remaining` is not like
that. -/
def Local (reader : Reader α) : Prop :=
  ∀ bytes value rest, reader bytes = .ok (value, rest) →
    ∀ behind, reader (bytes ++ behind) = .ok (value, rest ++ behind)

namespace Local

theorem pure (value : α) : Local (pure value) := by
  intro bytes _ _ read behind
  obtain ⟨rfl, rfl⟩ := Prod.mk.inj (Except.ok.inj read)
  rfl

theorem bind {x : Reader α} {f : α → Reader β} (first : Local x) (next : ∀ value, Local (f value)) :
    Local (x >>= f) := by
  intro bytes result rest read behind
  obtain ⟨value, middle, front, back⟩ := exists_of_bind_ok read
  rw [bind_ok (first _ _ _ front behind)]
  exact next value _ _ _ back behind

theorem take (place : Place) (count : Nat) : Local (take place count) := by
  intro bytes value rest read behind
  obtain ⟨enough, rfl, rfl⟩ := take_eq_ok read
  have width : (bytes.take count).length = count := List.length_take_of_le enough
  have regroup : bytes ++ behind = bytes.take count ++ (bytes.drop count ++ behind) := by
    rw [← List.append_assoc, List.take_append_drop]
  rw [regroup]
  exact take_append width (bytes.drop count ++ behind)

theorem skip (place : Place) (count : Nat) : Local (skip place count) :=
  (take place count).bind fun _ => pure ()

theorem u32 (place : Place) : Local (u32 place) :=
  (take place 4).bind fun _ => pure _

theorem u16 (place : Place) : Local (u16 place) :=
  (take place 2).bind fun _ => pure _

theorem fail (error : DecodeError) : Local (fail error : Reader α) := by
  intro bytes value rest read
  cases read

theorem times {item : Reader α} (h : Local item) (count : Nat) : Local (times count item) := by
  induction count with
  | zero => exact pure []
  | succ count ih => exact h.bind fun first => ih.bind fun others => pure (first :: others)

/-! ### Bytes that are cut off

A run of items is read from the front of some bytes as it is from all of them, until the cut is reached. -/

theorem many_isPrefix {item : Reader α} (h : Local item) (least : Nat) (front back : Bytes) :
    (many least item front).1 <+: (many least item (front ++ back)).1 := by
  fun_induction many least item front with
  | case1 => exact List.nil_prefix
  | case2 => exact List.nil_prefix
  | case3 front enough first rest read progress others ending run ih =>
    have whole := h _ _ _ read back
    have more : (rest ++ back).length < (front ++ back).length := by
      simpa using progress
    have long : least ≤ (front ++ back).length := by
      rw [List.length_append]
      omega
    rw [many_ok long whole more, List.cons_prefix_cons]
    rw [run] at ih
    exact ⟨rfl, ih⟩
  | case4 front enough first rest read stuck =>
    have whole := h _ _ _ read back
    have stuck : ¬ (rest ++ back).length < (front ++ back).length := by
      simpa using stuck
    have long : ¬ (front ++ back).length < least := by
      rw [List.length_append]
      omega
    rw [many, if_neg long, whole]
    simp only [if_neg stuck, List.prefix_rfl]

theorem upTo_isPrefix {item : Reader α} (h : Local item) (count : Nat) (front back : Bytes) :
    (upTo count item front).1 <+: (upTo count item (front ++ back)).1 := by
  induction count generalizing front with
  | zero => exact List.nil_prefix
  | succ count ih =>
    unfold upTo
    cases read : item front with
    | error => exact List.nil_prefix
    | ok found =>
      obtain ⟨first, rest⟩ := found
      rw [h _ _ _ read back]
      exact List.cons_prefix_cons.2 ⟨rfl, ih rest⟩

end Local

/-! ## Why it fails -/

/-- The reader fails for want of bytes only, with an error that is `truncated`. -/
def FailsShort (reader : Reader α) : Prop :=
  ∀ bytes error, reader bytes = .error error →
    ∃ place needed available, error = .truncated place needed available

namespace FailsShort

theorem pure (value : α) : FailsShort (pure value) := by
  intro bytes error failed
  cases failed

theorem bind {x : Reader α} {f : α → Reader β} (first : FailsShort x)
    (next : ∀ value, FailsShort (f value)) : FailsShort (x >>= f) := by
  intro bytes error failed
  cases front : x bytes with
  | error own =>
    rw [bind_error front] at failed
    obtain rfl := Except.error.inj failed
    exact first bytes own front
  | ok found =>
    rw [bind_ok front] at failed
    exact next found.1 found.2 error failed

theorem take (place : Place) (count : Nat) : FailsShort (take place count) := by
  intro bytes error failed
  unfold Reader.take at failed
  split at failed
  · cases failed
  · obtain rfl := Except.error.inj failed
    exact ⟨place, count, bytes.length, rfl⟩

theorem skip (place : Place) (count : Nat) : FailsShort (skip place count) :=
  (take place count).bind fun _ => pure ()

theorem u16 (place : Place) : FailsShort (u16 place) :=
  (take place 2).bind fun _ => pure _

theorem u32 (place : Place) : FailsShort (u32 place) :=
  (take place 4).bind fun _ => pure _

/-- A run of `upTo` that ends early ends as its last item failed. -/
theorem upTo {item : Reader α} (h : FailsShort item) (count : Nat) (bytes : Bytes)
    {error : DecodeError} (ended : (upTo count item bytes).2 = some error) :
    ∃ place needed available, error = .truncated place needed available := by
  induction count generalizing bytes with
  | zero => cases ended
  | succ count ih =>
    unfold Reader.upTo at ended
    split at ended
    · rename_i own failed
      obtain rfl := Option.some.inj ended
      exact h bytes _ failed
    · rename_i first rest read
      exact ih rest ended

end FailsShort

end FlowCollector.Reader
