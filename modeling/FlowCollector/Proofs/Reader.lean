import FlowCollector.Reader

/-!
# Reading what was written

Each reading step gives back what was written at the front of its bytes and leaves the bytes behind it
alone. The bytes behind are arbitrary in every statement here: a step that looked further than its own
value would not satisfy them, and it is what lets the steps of a layout be put one behind the other.

A number is read by taking the bytes of its width, and what is said of `Reader.u16` and `Reader.u32` is an instance of
what is said of any width: `Reader.number_eq_ok` when it was read, `Reader.number_ofNat` when it was written.

`Reader.many_written` is the same for a run of items, and it is where the padding is dealt with: the run
is read up to the first thing that is not a written item, whatever that is.
-/

set_option autoImplicit false

namespace FlowCollector

theorem Bytes.foldl_lt (bytes : Bytes) (start : Nat) :
    bytes.foldl (fun value byte => value * 256 + byte.toNat) start
      < (start + 1) * Nat.pow 256 bytes.length := by
  induction bytes generalizing start with
  | nil => exact Nat.le_of_eq (Nat.mul_one _).symm
  | cons first others ih =>
    have below := first.toNat_lt
    calc others.foldl (fun value byte => value * 256 + byte.toNat) (start * 256 + first.toNat)
        < (start * 256 + first.toNat + 1) * Nat.pow 256 others.length := ih _
      _ ≤ (start + 1) * 256 * Nat.pow 256 others.length := Nat.mul_le_mul_right _ (by omega)
      _ = (start + 1) * Nat.pow 256 (others.length + 1) := by
        rw [Nat.mul_assoc, Nat.mul_comm 256]
        rfl

/-- Bytes spell a number that can be written in as many bytes, by `Bytes.ofNat`. -/
theorem Bytes.toNat_lt (bytes : Bytes) : bytes.toNat < Nat.pow 256 bytes.length := by
  have bound := bytes.foldl_lt 0
  rwa [Nat.zero_add, Nat.one_mul] at bound

/-- The number that `width` bytes from an offset on spell. Where a layout is fixed, its members are such numbers. -/
def Bytes.numberAt (bytes : Bytes) (offset width : Nat) : Nat := toNat ((bytes.drop offset).take width)

theorem Bytes.numberAt_lt (bytes : Bytes) (offset width : Nat) :
    bytes.numberAt offset width < Nat.pow 256 width := by
  have bound := toNat_lt ((bytes.drop offset).take width)
  have fewer := List.length_take_le width (bytes.drop offset)
  exact Nat.lt_of_lt_of_le bound (Nat.pow_le_pow_right (by decide) fewer)

theorem Bytes.numberAt_take (bytes : Bytes) {offset width count : Nat} (inside : offset + width ≤ count) :
    numberAt (bytes.take count) offset width = bytes.numberAt offset width := by
  unfold numberAt
  rw [List.drop_take, List.take_take, Nat.min_eq_left (by omega)]

theorem Bytes.numberAt_append {front : Bytes} (rest : Bytes) {offset width : Nat}
    (inside : offset + width ≤ front.length) : numberAt (front ++ rest) offset width = front.numberAt offset width := by
  rw [← numberAt_take (front ++ rest) inside, List.take_left]

theorem Bytes.numberAt_of_written {bytes : Bytes} {offset width value : Nat} (fits : value < Nat.pow 256 width)
    (there : (bytes.drop offset).take width = ofNat width value) : bytes.numberAt offset width = value := by
  rw [numberAt, there, toNat_ofNat_of_lt fits]

namespace Reader

variable {α β : Type}

/-! ## Steps in sequence -/

theorem bind_ok {x : Reader α} {f : α → Reader β} {bytes rest : Bytes} {value : α}
    (h : x bytes = .ok (value, rest)) : (x >>= f) bytes = f value rest := by
  show (x bytes >>= fun step => f step.1 step.2) = f value rest
  rw [h]
  rfl

theorem bind_error {x : Reader α} {f : α → Reader β} {bytes : Bytes} {error : DecodeError}
    (h : x bytes = .error error) : (x >>= f) bytes = .error error := by
  show (x bytes >>= fun step => f step.1 step.2) = .error error
  rw [h]
  rfl

theorem exists_of_bind_ok {x : Reader α} {f : α → Reader β} {bytes : Bytes} {result : β × Bytes}
    (h : (x >>= f) bytes = .ok result) :
    ∃ value rest, x bytes = .ok (value, rest) ∧ f value rest = .ok result := by
  cases step : x bytes with
  | error error =>
    rw [bind_error step] at h
    cases h
  | ok front =>
    rw [bind_ok step] at h
    exact ⟨front.1, front.2, rfl, h⟩

@[simp] theorem pure_apply (value : α) (bytes : Bytes) :
    (pure value : Reader α) bytes = .ok (value, bytes) := rfl

@[simp] theorem remaining_apply (bytes : Bytes) : remaining bytes = .ok (bytes.length, bytes) := rfl

/-! ## Bytes and numbers -/

/-- `take` has a front of the width it asks for. The width is a hypothesis and not the length itself, so a caller
whose width is a number of its own need not rewrite it. -/
theorem take_append {place : Place} {count : Nat} {front : Bytes} (width : front.length = count)
    (rest : Bytes) : take place count (front ++ rest) = .ok (front, rest) := by
  subst width
  simp [take]

theorem take_of_le (place : Place) {count : Nat} {bytes : Bytes} (enough : count ≤ bytes.length) :
    take place count bytes = .ok (bytes.take count, bytes.drop count) :=
  if_pos enough

theorem take_short (place : Place) {count : Nat} {bytes : Bytes} (short : bytes.length < count) :
    take place count bytes = .error (.truncated place count bytes.length) :=
  if_neg (Nat.not_le.2 short)

theorem take_eq_ok {place : Place} {count : Nat} {bytes front rest : Bytes}
    (h : take place count bytes = .ok (front, rest)) :
    count ≤ bytes.length ∧ front = bytes.take count ∧ rest = bytes.drop count := by
  unfold take at h
  split at h
  · rename_i enough
    obtain ⟨rfl, rfl⟩ := Prod.mk.inj (Except.ok.inj h)
    exact ⟨enough, rfl, rfl⟩
  · cases h

/-! ### Numbers of any width

`u8`, `u16`, `u32` and `skip` each make something of the bytes that one `take` gives. What holds of all of them is said
once, with the width as `count` and what is made of the bytes as `make`. -/

theorem number_of_le (place : Place) {count : Nat} (make : Bytes → α) {bytes : Bytes} (enough : count ≤ bytes.length) :
    (do return make (← take place count) : Reader α) bytes = .ok (make (bytes.take count), bytes.drop count) :=
  bind_ok (take_of_le place enough)

theorem number_of_not_le (place : Place) {count : Nat} (make : Bytes → α) {bytes : Bytes}
    (short : ¬ count ≤ bytes.length) :
    (do return make (← take place count) : Reader α) bytes = .error (.truncated place count bytes.length) :=
  bind_error (take_short place (Nat.not_le.1 short))

theorem number_eq_ok {place : Place} {count : Nat} (make : Bytes → α) {bytes rest : Bytes} {value : α}
    (h : (do return make (← take place count) : Reader α) bytes = .ok (value, rest)) :
    count ≤ bytes.length ∧ value = make (bytes.take count) ∧ rest = bytes.drop count := by
  by_cases enough : count ≤ bytes.length
  · rw [number_of_le place make enough] at h
    obtain ⟨rfl, rfl⟩ := Prod.mk.inj (Except.ok.inj h)
    exact ⟨enough, rfl, rfl⟩
  · rw [number_of_not_le place make enough] at h
    cases h

/-- A number that is written by `Bytes.ofNat` in as many bytes as are taken is what is read, whatever is made of
it. -/
theorem number_ofNat (place : Place) {count : Nat} (make : Nat → α) {value : Nat} (fits : value < Nat.pow 256 count)
    (rest : Bytes) :
    (do return make (Bytes.toNat (← take place count)) : Reader α) (Bytes.ofNat count value ++ rest)
      = .ok (make value, rest) := by
  rw [bind_ok (take_append (Bytes.length_ofNat count value) rest), Bytes.toNat_ofNat_of_lt fits]
  rfl

theorem skip_eq_ok {place : Place} {count : Nat} {bytes rest : Bytes} (h : skip place count bytes = .ok ((), rest)) :
    count ≤ bytes.length ∧ rest = bytes.drop count := by
  obtain ⟨enough, -, dropped⟩ := number_eq_ok (fun _ => ()) h
  exact ⟨enough, dropped⟩

theorem u16_eq_ok {place : Place} {bytes rest : Bytes} {value : UInt16}
    (h : u16 place bytes = .ok (value, rest)) :
    2 ≤ bytes.length ∧ value = .ofNat (Bytes.toNat (bytes.take 2)) ∧ rest = bytes.drop 2 :=
  number_eq_ok _ h

theorem u32_eq_ok {place : Place} {bytes rest : Bytes} {value : UInt32}
    (h : u32 place bytes = .ok (value, rest)) :
    4 ≤ bytes.length ∧ value = .ofNat (Bytes.toNat (bytes.take 4)) ∧ rest = bytes.drop 4 :=
  number_eq_ok _ h

theorem u16_short (place : Place) {bytes : Bytes} (short : bytes.length < 2) :
    u16 place bytes = .error (.truncated place 2 bytes.length) :=
  number_of_not_le place _ (Nat.not_le.2 short)

theorem u32_short (place : Place) {bytes : Bytes} (short : bytes.length < 4) :
    u32 place bytes = .error (.truncated place 4 bytes.length) :=
  number_of_not_le place _ (Nat.not_le.2 short)

theorem u16_ofNat (place : Place) {value : Nat} (fits : value < UInt16.size) (rest : Bytes) :
    u16 place (Bytes.ofNat 2 value ++ rest) = .ok (.ofNat value, rest) :=
  number_ofNat place UInt16.ofNat fits rest

theorem u32_ofNat (place : Place) {value : Nat} (fits : value < UInt32.size) (rest : Bytes) :
    u32 place (Bytes.ofNat 4 value ++ rest) = .ok (.ofNat value, rest) :=
  number_ofNat place UInt32.ofNat fits rest

theorem u16_toNat (place : Place) (value : UInt16) (rest : Bytes) :
    u16 place (Bytes.ofNat 2 value.toNat ++ rest) = .ok (value, rest) := by
  rw [u16_ofNat place value.toNat_lt, UInt16.ofNat_toNat]

theorem u32_toNat (place : Place) (value : UInt32) (rest : Bytes) :
    u32 place (Bytes.ofNat 4 value.toNat ++ rest) = .ok (value, rest) := by
  rw [u32_ofNat place value.toNat_lt, UInt32.ofNat_toNat]

theorem skip_append {place : Place} {count : Nat} {front : Bytes} (width : front.length = count)
    (rest : Bytes) : skip place count (front ++ rest) = .ok ((), rest) := by
  unfold skip
  rw [bind_ok (take_append width rest)]
  rfl

theorem u8_cons (place : Place) (byte : UInt8) (rest : Bytes) :
    u8 place (byte :: rest) = .ok (byte, rest) := by
  have taken : take place 1 (byte :: rest) = .ok ([byte], rest) :=
    take_append (show [byte].length = 1 from rfl) rest
  unfold u8
  rw [bind_ok taken]
  simp [Bytes.toNat]

/-! ## Runs of items -/

/-- What is written need not be all that `times` reads: `meaning` is what the item says of it. -/
theorem times_meaning {γ : Type} (meaning : γ → α) {item : Reader α} {encode : γ → Bytes} {values : List γ}
    (written : ∀ value ∈ values, ∀ rest, item (encode value ++ rest) = .ok (meaning value, rest))
    (rest : Bytes) :
    times values.length item (values.flatMap encode ++ rest) = .ok (values.map meaning, rest) := by
  induction values with
  | nil => rfl
  | cons first others ih =>
    have head := written first List.mem_cons_self (others.flatMap encode ++ rest)
    have tail := ih fun value mem => written value (List.mem_cons_of_mem first mem)
    rw [List.flatMap_cons, List.append_assoc, List.length_cons, times, bind_ok head, bind_ok tail]
    rfl

theorem times_written {item : Reader α} {encode : α → Bytes} {values : List α}
    (written : ∀ value ∈ values, ∀ rest, item (encode value ++ rest) = .ok (value, rest))
    (rest : Bytes) :
    times values.length item (values.flatMap encode ++ rest) = .ok (values, rest) := by
  rw [times_meaning id written rest, List.map_id]

/-- Fewer bytes than the least item takes are padding, and `many` reads nothing. -/
theorem many_short {least : Nat} (item : Reader α) {bytes : Bytes} (short : bytes.length < least) :
    many least item bytes = ([], none) := by
  rw [many, if_pos short]

theorem many_ok {least : Nat} {item : Reader α} {bytes rest : Bytes} {value : α}
    (enough : least ≤ bytes.length) (read : item bytes = .ok (value, rest))
    (progress : rest.length < bytes.length) :
    many least item bytes
      = (value :: (many least item rest).1, (many least item rest).2) := by
  rw [many, if_neg (Nat.not_lt.2 enough), read]
  simp only [if_pos progress]

/-- A run of written items is read by `many` item by item, and what stands behind it is read as if it stood alone. -/
theorem many_written {γ : Type} (meaning : γ → α) {least : Nat} {item : Reader α}
    {encode : γ → Bytes} {values : List γ} (positive : 0 < least)
    (long : ∀ value ∈ values, least ≤ (encode value).length)
    (written : ∀ value ∈ values, ∀ rest, item (encode value ++ rest) = .ok (meaning value, rest))
    (rest : Bytes) :
    many least item (values.flatMap encode ++ rest)
      = (values.map meaning ++ (many least item rest).1, (many least item rest).2) := by
  induction values with
  | nil => rfl
  | cons first others ih =>
    have size := long first List.mem_cons_self
    have head := written first List.mem_cons_self (others.flatMap encode ++ rest)
    have tail := ih (fun value mem => long value (List.mem_cons_of_mem first mem))
      fun value mem => written value (List.mem_cons_of_mem first mem)
    have enough : least ≤ (encode first ++ (others.flatMap encode ++ rest)).length := by
      rw [List.length_append]
      omega
    have progress : (others.flatMap encode ++ rest).length
        < (encode first ++ (others.flatMap encode ++ rest)).length := by
      have sum := @List.length_append _ (encode first) (others.flatMap encode ++ rest)
      omega
    rw [List.flatMap_cons, List.append_assoc, many_ok enough head progress, tail]
    rfl

end Reader

end FlowCollector
