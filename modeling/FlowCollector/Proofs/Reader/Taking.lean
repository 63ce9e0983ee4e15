import FlowCollector.Proofs.Reader.Properties

/-!
# How much a reader takes

`Takes` says that what a reader reads is a front of its bytes and hangs on that front alone, so the front can be given
to it by itself. It says more than `Local`: bytes can be left out behind the front as well as put there.

`InStep` is about two readers that go over the same bytes and make different things of them. They leave the same, and
where one fails so does the other, but not with the same error. Both are kept by putting steps in sequence.
-/

set_option autoImplicit false

namespace FlowCollector.Reader

variable {α β γ δ : Type}

/-! ## A part of fixed width -/

theorem skip_of_le (place : Place) {count : Nat} {bytes : Bytes} (enough : count ≤ bytes.length) :
    skip place count bytes = .ok ((), bytes.drop count) :=
  number_of_le place _ enough

theorem skip_of_not_le (place : Place) {count : Nat} {bytes : Bytes} (short : ¬ count ≤ bytes.length) :
    skip place count bytes = .error (.truncated place count bytes.length) :=
  number_of_not_le place _ short

/-- A part that stands at an offset is what `take` reads there, and the bytes behind it are left. -/
theorem take_at (place : Place) {count offset : Nat} {bytes : Bytes} (inside : offset + count ≤ bytes.length) :
    take place count (bytes.drop offset) = .ok ((bytes.drop offset).take count, bytes.drop (offset + count)) := by
  have enough : count ≤ (bytes.drop offset).length := by
    rw [List.length_drop]
    omega
  rw [← List.drop_drop]
  exact take_of_le place enough

theorem number_at (place : Place) {count offset : Nat} (make : Bytes → α) {bytes : Bytes}
    (inside : offset + count ≤ bytes.length) :
    (do return make (← take place count) : Reader α) (bytes.drop offset)
      = .ok (make ((bytes.drop offset).take count), bytes.drop (offset + count)) :=
  bind_ok (take_at place inside)

/-! ## Fronts -/

/-- What the reader takes is a front of the bytes, and it takes that front alike whatever stands behind it, or nothing
does. -/
def Takes (reader : Reader α) (P : α → Bytes → Prop) : Prop :=
  ∀ bytes value rest, reader bytes = .ok (value, rest) →
    ∃ front, P value front ∧ bytes = front ++ rest
      ∧ ∀ behind, reader (front ++ behind) = .ok (value, behind)

namespace Takes

theorem pure {P : α → Bytes → Prop} {value : α} (h : P value []) : Takes (pure value) P := by
  intro bytes _ _ read
  obtain ⟨rfl, rfl⟩ := Prod.mk.inj (Except.ok.inj read)
  exact ⟨[], h, rfl, fun behind => rfl⟩

theorem bind {Q : α → Bytes → Prop} {P : β → Bytes → Prop} {x : Reader α} {f : α → Reader β} (first : Takes x Q)
    (next : ∀ value front, Q value front → Takes (f value) fun result back => P result (front ++ back)) :
    Takes (x >>= f) P := by
  intro bytes result rest read
  obtain ⟨value, middle, readFirst, readNext⟩ := exists_of_bind_ok read
  obtain ⟨front, own, rfl, alikeFirst⟩ := first _ _ _ readFirst
  obtain ⟨back, whole, rfl, alikeNext⟩ := next value front own _ _ _ readNext
  refine ⟨front ++ back, whole, (List.append_assoc ..).symm, ?_⟩
  intro behind
  rw [List.append_assoc, bind_ok (alikeFirst (back ++ behind))]
  exact alikeNext behind

theorem take (place : Place) (count : Nat) : Takes (take place count) fun _ front => front.length = count := by
  intro bytes value rest read
  obtain ⟨enough, rfl, rfl⟩ := take_eq_ok read
  have width : (bytes.take count).length = count := List.length_take_of_le enough
  exact ⟨bytes.take count, width, (List.take_append_drop ..).symm, take_append width⟩

/-- A number is made of the bytes that are taken for it, as many as its width. -/
theorem number (place : Place) (count : Nat) (f : Bytes → α) :
    Takes (do return f (← Reader.take place count)) fun _ front => front.length = count := by
  refine (take place count).bind fun bytes front width => pure ?_
  rwa [List.append_nil]

theorem u8 (place : Place) : Takes (u8 place) fun _ front => front.length = 1 :=
  number place 1 _

theorem u16 (place : Place) : Takes (u16 place) fun _ front => front.length = 2 :=
  number place 2 _

theorem u32 (place : Place) : Takes (u32 place) fun _ front => front.length = 4 :=
  number place 4 _

theorem skip (place : Place) (count : Nat) : Takes (skip place count) fun _ front => front.length = count :=
  number place count _

theorem mono {P Q : α → Bytes → Prop} {reader : Reader α} (h : Takes reader P)
    (weaker : ∀ value front, P value front → Q value front) : Takes reader Q := by
  intro bytes value rest read
  obtain ⟨front, own, same, alike⟩ := h _ _ _ read
  exact ⟨front, weaker _ _ own, same, alike⟩

/-- Nothing is asked of what is taken, where only that it `Takes` something matters. -/
theorem anything {P : α → Bytes → Prop} {reader : Reader α} (h : Takes reader P) : Takes reader fun _ _ => True :=
  h.mono fun _ _ _ => trivial

theorem times {item : Reader α} (h : Takes item fun _ _ => True) (count : Nat) :
    Takes (times count item) fun _ _ => True := by
  induction count with
  | zero => exact pure trivial
  | succ count ih => exact h.bind fun _ _ _ => ih.bind fun _ _ _ => pure trivial

/-- What a reader leaves tells what it took, and with just that it leaves nothing. -/
theorem take_left {P : α → Bytes → Prop} {reader : Reader α} (h : Takes reader P) {bytes rest : Bytes} {value : α}
    (read : reader bytes = .ok (value, rest)) :
    rest.length ≤ bytes.length ∧ reader (bytes.take (bytes.length - rest.length)) = .ok (value, []) := by
  obtain ⟨front, -, rfl, alike⟩ := h _ _ _ read
  have width : (front ++ rest).length - rest.length = front.length := by
    rw [List.length_append, Nat.add_sub_cancel]
  have alone := alike []
  rw [List.append_nil] at alone
  rw [width, List.take_left]
  exact ⟨by rw [List.length_append]; omega, alone⟩

end Takes

/-! ## Two readers of the same bytes -/

/-- Two readers that leave the same bytes and fail on the same. What they read is so related, and their errors need
not be. -/
def InStep (R : α → β → Prop) (x : Reader α) (y : Reader β) : Prop :=
  ∀ bytes,
    (∃ a b rest, R a b ∧ x bytes = .ok (a, rest) ∧ y bytes = .ok (b, rest))
      ∨ ∃ e f, x bytes = .error e ∧ y bytes = .error f

namespace InStep

theorem pure {R : α → β → Prop} {a : α} {b : β} (h : R a b) : InStep R (pure a) (pure b) :=
  fun bytes => .inl ⟨a, b, bytes, h, rfl, rfl⟩

theorem bind {Q : α → β → Prop} {R : γ → δ → Prop} {x : Reader α} {y : Reader β} {f : α → Reader γ}
    {g : β → Reader δ} (first : InStep Q x y) (next : ∀ a b, Q a b → InStep R (f a) (g b)) :
    InStep R (x >>= f) (y >>= g) := by
  intro bytes
  rcases first bytes with ⟨a, b, rest, related, left, right⟩ | ⟨e, e', left, right⟩
  · rw [bind_ok left, bind_ok right]
    exact next a b related rest
  · rw [bind_error left, bind_error right]
    exact .inr ⟨e, e', rfl, rfl⟩

/-- What is made of a value that was read does not matter to what is left, so readers stay `InStep`. -/
theorem map_right {Q : α → β → Prop} {R : α → δ → Prop} {x : Reader α} {y : Reader β} (h : InStep Q x y)
    {make : β → δ} (related : ∀ a b, Q a b → R a (make b)) : InStep R x (do return make (← y)) := by
  intro bytes
  rcases h bytes with ⟨a, b, rest, own, left, right⟩ | ⟨e, e', left, right⟩
  · exact .inl ⟨a, make b, rest, related a b own, left, bind_ok right⟩
  · exact .inr ⟨e, e', left, bind_error right⟩

/-- The same bytes can be taken in different places, which only an error would tell. -/
theorem take (p q : Place) (count : Nat) : InStep (· = ·) (take p count) (take q count) := by
  intro bytes
  unfold Reader.take
  split
  · exact .inl ⟨_, _, _, rfl, rfl, rfl⟩
  · exact .inr ⟨_, _, rfl, rfl⟩

theorem u32 (p q : Place) : InStep (· = ·) (u32 p) (u32 q) := by
  refine (take p q 4).bind fun _ bytes same => pure ?_
  rw [same]

theorem times {R : α → β → Prop} {x : Reader α} {y : Reader β} (h : InStep R x y) (count : Nat) :
    InStep (fun _ _ => True) (times count x) (times count y) := by
  induction count with
  | zero => exact pure trivial
  | succ count ih => exact h.bind fun _ _ _ => ih.bind fun _ _ _ => pure trivial

/-- Bytes that are skipped at once can be read one part after another, as a reader does that looks at the parts. -/
theorem skip_part {R : γ → δ → Prop} {p q : Place} {width more : Nat} {make : Bytes → α} {f : Reader γ}
    {g : α → Reader δ} (next : ∀ value, InStep R (skip p more >>= fun _ => f) (g value)) :
    InStep R (skip p (width + more) >>= fun _ => f) ((do return make (← Reader.take q width)) >>= g) := by
  intro bytes
  by_cases enough : width ≤ bytes.length
  · rw [bind_ok (number_of_le q make enough)]
    have onward := next (make (bytes.take width)) (bytes.drop width)
    by_cases all : width + more ≤ bytes.length
    · have long : more ≤ (bytes.drop width).length := by
        rw [List.length_drop]
        omega
      rw [bind_ok (skip_of_le p long), List.drop_drop] at onward
      rwa [bind_ok (skip_of_le p all)]
    · -- The part is there, but not all that is skipped with it: what is left is too short for the rest.
      have short : ¬ more ≤ (bytes.drop width).length := by
        rw [List.length_drop]
        omega
      rw [bind_error (skip_of_not_le p short)] at onward
      rw [bind_error (skip_of_not_le p all)]
      rcases onward with ⟨_, _, _, _, read, _⟩ | ⟨_, e, _, failed⟩
      · cases read
      · exact .inr ⟨_, e, rfl, failed⟩
  · have short : ¬ width + more ≤ bytes.length := by omega
    exact .inr ⟨_, _, bind_error (skip_of_not_le p short),
      bind_error (number_of_not_le q make enough)⟩

theorem skip_u32 (more : Nat) {R : γ → δ → Prop} {p q : Place} {f : Reader γ} {g : UInt32 → Reader δ}
    (next : ∀ value, InStep R (skip p more >>= fun _ => f) (g value)) :
    InStep R (skip p (4 + more) >>= fun _ => f) (Reader.u32 q >>= g) :=
  skip_part next

theorem skip_skip (width more : Nat) {R : γ → δ → Prop} {p q : Place} {f : Reader γ} {g : Unit → Reader δ}
    (next : ∀ value, InStep R (skip p more >>= fun _ => f) (g value)) :
    InStep R (skip p (width + more) >>= fun _ => f) (Reader.skip q width >>= g) :=
  skip_part next

/-- Where nothing is left to skip, nothing happens. This ends what `skip_part` began. -/
theorem skip_nothing {R : γ → δ → Prop} {p : Place} {f : Reader γ} {g : Reader δ} (next : InStep R f g) :
    InStep R (skip p 0 >>= fun _ => f) g := by
  intro bytes
  rw [bind_ok (skip_of_le p (Nat.zero_le _))]
  exact next bytes

end InStep

/-! ## A count of items -/

section

variable {item : Reader α} {count : Nat} {bytes : Bytes}

/-- As many items as are wanted are read alike by `times` and `upTo`, whether the first that fails is the end of all
or of itself. -/
theorem upTo_of_times_ok {values : List α} {rest : Bytes} (h : times count item bytes = .ok (values, rest)) :
    upTo count item bytes = (values, none) := by
  induction count generalizing bytes values rest with
  | zero =>
    obtain ⟨rfl, -⟩ := Prod.mk.inj (Except.ok.inj h)
    rfl
  | succ count ih =>
    obtain ⟨first, middle, read, more⟩ := exists_of_bind_ok h
    obtain ⟨others, left, readOthers, done⟩ := exists_of_bind_ok more
    obtain ⟨rfl, -⟩ := Prod.mk.inj (Except.ok.inj done)
    simp only [upTo, read, ih readOthers]

theorem upTo_of_times_error {error : DecodeError} (h : times count item bytes = .error error) :
    (upTo count item bytes).2 = some error := by
  induction count generalizing bytes with
  | zero => cases h
  | succ count ih =>
    unfold upTo
    cases read : item bytes with
    | error own =>
      rw [times, bind_error read] at h
      exact congrArg some (Except.error.inj h)
    | ok found =>
      obtain ⟨first, middle⟩ := found
      rw [times, bind_ok read] at h
      cases others : times count item middle with
      | error own =>
        rw [bind_error others] at h
        obtain rfl := Except.error.inj h
        exact ih others
      | ok found =>
        rw [bind_ok others] at h
        cases h

/-- Parts of one width are read by `upTo` as far as there are any, and what is too short for another is an error if
one more was wanted. -/
theorem upTo_take (place : Place) {width : Nat} (positive : 0 < width) (count : Nat) (bytes : Bytes) :
    upTo count (take place width) bytes
      = ((List.range (min count (bytes.length / width))).map fun k => (bytes.drop (width * k)).take width,
        if count ≤ bytes.length / width then none else some (.truncated place width (bytes.length % width))) := by
  induction count generalizing bytes with
  | zero => rw [Nat.zero_min, if_pos (Nat.zero_le _)]; rfl
  | succ count ih =>
    unfold upTo
    by_cases enough : width ≤ bytes.length
    · have parts : bytes.length / width = (bytes.drop width).length / width + 1 := by
        rw [List.length_drop, Nat.div_eq_sub_div positive enough]
      have left : (bytes.drop width).length % width = bytes.length % width := by
        rw [List.length_drop, ← Nat.mod_eq_sub_mod enough]
      rw [take_of_le place enough]
      dsimp only
      rw [ih, parts, left, Nat.add_min_add_right, List.range_succ_eq_map, List.map_cons, List.map_map]
      simp [List.drop_drop, Nat.mul_succ, Nat.add_comm]
    · have short := Nat.lt_of_not_le enough
      rw [take_short place short, Nat.div_eq_of_lt short, Nat.mod_eq_of_lt short]
      rfl

end

end FlowCollector.Reader
