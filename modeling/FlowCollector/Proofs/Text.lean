import FlowCollector.Text.Numeral
import FlowCollector.Text.Split
import Mathlib.Tactic.IntervalCases

/-!
# Text written and read back

A numeral is read back as its number, and pieces that hold no separator are cut where they were joined.
Cutting at a doubled separator needs more than that: the pieces must not be empty either, since an empty piece
between two separators is a doubled separator.
-/

set_option autoImplicit false

namespace FlowCollector

/-! ## Numerals -/

namespace Numeral

variable {base value digit : Nat}

theorem digit?_digitChar (small : base ≤ 16) (h : digit < base) :
    digit? base digit.digitChar = some digit := by
  have value : digitValue? digit.digitChar = some digit := by
    have : digit < 16 := by omega
    interval_cases digit <;> rfl
  simp [digit?, value, h]

theorem readOn?_append (base value : Nat) (text more : List Char) :
    readOn? base value (text ++ more)
      = (readOn? base value text).bind fun value => readOn? base value more := by
  induction text generalizing value with
  | nil => rfl
  | cons c rest ih =>
    simp only [List.cons_append, readOn?]
    cases digit? base c with
    | none => rfl
    | some digit => exact ih _

theorem readOn?_write (atLeastTwo : 1 < base) (small : base ≤ 16) (value : Nat) :
    readOn? base 0 (write base value) = some value := by
  induction value using Nat.strong_induction_on with
  | _ value ih =>
    rw [write, Nat.toDigits_eq_if atLeastTwo]
    split
    case isTrue oneDigit => simp [readOn?, digit?_digitChar small oneDigit]
    case isFalse more =>
      have front := ih (value / base) (Nat.div_lt_self (by omega) atLeastTwo)
      rw [write] at front
      have last := digit?_digitChar small (Nat.mod_lt value (by omega : 0 < base))
      rw [readOn?_append, front, Option.bind_some]
      simp only [readOn?, last, Nat.div_add_mod']

theorem write_ne_nil (base value : Nat) : write base value ≠ [] := Nat.toDigits_ne_nil

theorem read?_write (atLeastTwo : 1 < base) (small : base ≤ 16) (value : Nat) :
    read? base (write base value) = some value := by
  have whole := readOn?_write atLeastTwo small value
  cases h : write base value with
  | nil => exact absurd h (write_ne_nil base value)
  | cons c rest => rwa [h] at whole

theorem write_injective (atLeastTwo : 1 < base) (small : base ≤ 16) {other : Nat}
    (h : write base value = write base other) : value = other := by
  have same := congrArg (read? base) h
  rw [read?_write atLeastTwo small, read?_write atLeastTwo small] at same
  exact Option.some.inj same

theorem isDigit_of_mem_write (atLeastTwo : 1 < base) (small : base ≤ 16) {c : Char}
    (h : c ∈ write base value) : isDigit base c = true := by
  induction value using Nat.strong_induction_on with
  | _ value ih =>
    rw [write, Nat.toDigits_eq_if atLeastTwo] at h
    split at h
    case isTrue oneDigit =>
      rw [List.mem_singleton.1 h, isDigit, digit?_digitChar small oneDigit, Option.isSome_some]
    case isFalse more =>
      rcases List.mem_append.1 h with front | last
      · exact ih _ (Nat.div_lt_self (by omega) atLeastTwo) front
      · rw [List.mem_singleton.1 last, isDigit,
          digit?_digitChar small (Nat.mod_lt _ (by omega)), Option.isSome_some]

/-- No zeros stand in front of a positive number that `write` wrote. -/
theorem head?_write (atLeastTwo : 1 < base) (small : base ≤ 16) (positive : 0 < value) :
    (write base value).head? ≠ some '0' := by
  induction value using Nat.strong_induction_on with
  | _ value ih =>
    rw [write, Nat.toDigits_eq_if atLeastTwo]
    split
    case isTrue oneDigit =>
      have : value < 16 := by omega
      interval_cases value <;> decide
    case isFalse more =>
      have fewer := ih (value / base) (Nat.div_lt_self (by omega) atLeastTwo)
        (Nat.div_pos (by omega) (by omega))
      rw [write] at fewer
      cases front : Nat.toDigits base (value / base) with
      | nil => exact absurd front Nat.toDigits_ne_nil
      | cons c rest =>
        rw [front] at fewer
        exact fewer

theorem isDigit_of_readOn? {value result : Nat} {text : List Char}
    (h : readOn? base value text = some result) : ∀ c ∈ text, isDigit base c = true := by
  induction text generalizing value with
  | nil => simp
  | cons first rest ih =>
    simp only [readOn?] at h
    cases digit : digit? base first with
    | none => simp [digit] at h
    | some _ =>
      rw [digit] at h
      intro c there
      rcases List.mem_cons.1 there with rfl | there
      · rw [isDigit, digit, Option.isSome_some]
      · exact ih h c there

theorem isDigit_of_read? {result : Nat} {text : List Char} (h : read? base text = some result) :
    ∀ c ∈ text, isDigit base c = true := by
  cases text with
  | nil => simp
  | cons first rest => exact isDigit_of_readOn? h

end Numeral

theorem toString_injective {number other : Nat} (h : toString number = toString other) :
    number = other := by
  rw [Nat.toString_eq_ofList_toDigits, Nat.toString_eq_ofList_toDigits] at h
  exact Numeral.write_injective (by decide) (by decide) (String.ofList_injective h)

/-! ## Pieces -/

namespace Text

variable {separator : Char} {piece : List Char} {texts : List (List Char)}

theorem pieces_of_free (free : separator ∉ piece) : pieces separator piece = [piece] := by
  induction piece with
  | nil => rfl
  | cons c rest ih =>
    obtain ⟨first, rest_free⟩ := List.ne_and_not_mem_of_not_mem_cons free
    simp [pieces, first.symm, ih rest_free]

theorem pieces_append (free : separator ∉ piece) (rest : List Char) :
    pieces separator (piece ++ separator :: rest) = piece :: pieces separator rest := by
  induction piece with
  | nil => simp [pieces]
  | cons c more ih =>
    obtain ⟨first, more_free⟩ := List.ne_and_not_mem_of_not_mem_cons free
    simp [pieces, first.symm, ih more_free]

theorem join_cons (first : List Char) (some_text : texts ≠ []) :
    join separator (first :: texts) = first ++ separator :: join separator texts := by
  cases texts with
  | nil => exact absurd rfl some_text
  | cons second others => rfl

theorem pieces_join (some_text : texts ≠ []) (free : ∀ text ∈ texts, separator ∉ text) :
    pieces separator (join separator texts) = texts := by
  induction texts with
  | nil => exact absurd rfl some_text
  | cons first others ih =>
    have first_free := free first List.mem_cons_self
    cases others with
    | nil => exact pieces_of_free first_free
    | cons second others =>
      rw [join_cons first (List.cons_ne_nil _ _), pieces_append first_free,
        ih (List.cons_ne_nil _ _) fun text there => free text (List.mem_cons_of_mem first there)]

theorem join_ne_nil (some_text : texts ≠ []) (filled : ∀ text ∈ texts, text ≠ []) :
    join separator texts ≠ [] := by
  cases texts with
  | nil => exact absurd rfl some_text
  | cons first others =>
    have := filled first List.mem_cons_self
    cases others <;> simp [join, this]

/-- A character of texts that `join` put together is one of theirs, or the separator. -/
theorem mem_join {c : Char} (h : c ∈ join separator texts) :
    c = separator ∨ ∃ text ∈ texts, c ∈ text := by
  induction texts with
  | nil => simp [join] at h
  | cons first others ih =>
    cases others with
    | nil => exact .inr ⟨first, List.mem_singleton_self _, h⟩
    | cons second others =>
      rw [join_cons first (List.cons_ne_nil _ _)] at h
      rcases List.mem_append.1 h with inFirst | later
      · exact .inr ⟨first, List.mem_cons_self, inFirst⟩
      · rcases List.mem_cons.1 later with rfl | later
        · exact .inl rfl
        · rcases ih later with same | ⟨text, there, inText⟩
          · exact .inl same
          · exact .inr ⟨text, List.mem_cons_of_mem _ there, inText⟩

/-! ## Cutting once -/

theorem cutAt_append (free : separator ∉ piece) (rest : List Char) :
    cutAt separator (piece ++ separator :: rest) = some (piece, rest) := by
  induction piece with
  | nil => simp [cutAt]
  | cons c more ih =>
    obtain ⟨first, more_free⟩ := List.ne_and_not_mem_of_not_mem_cons free
    simp [cutAt, first.symm, ih more_free]

theorem cutAtPair_of_free (free : separator ∉ piece) : cutAtPair separator piece = none := by
  induction piece with
  | nil => rfl
  | cons c rest ih =>
    obtain ⟨first, rest_free⟩ := List.ne_and_not_mem_of_not_mem_cons free
    cases rest with
    | nil => rfl
    | cons d rest => simp [cutAtPair, first.symm, ih rest_free]

/-- In front of a separator that is followed by something else there is nothing for `cutAtPair` to cut. -/
theorem cutAtPair_append (free : separator ∉ piece) {c : Char} (other : c ≠ separator)
    (rest : List Char) :
    cutAtPair separator (piece ++ separator :: c :: rest)
      = (cutAtPair separator (c :: rest)).map
          fun (front, back) => (piece ++ separator :: front, back) := by
  induction piece with
  | nil => simp [cutAtPair, other]
  | cons d more ih =>
    obtain ⟨first, more_free⟩ := List.ne_and_not_mem_of_not_mem_cons free
    have step : cutAtPair separator (d :: (more ++ separator :: c :: rest))
        = (cutAtPair separator (more ++ separator :: c :: rest)).map
            fun (front, back) => (d :: front, back) := by
      cases more <;> simp [cutAtPair, first.symm]
    rw [List.cons_append, step, ih more_free, Option.map_map]
    rfl

theorem cutAtPair_pair (free : separator ∉ piece) (back : List Char) :
    cutAtPair separator (piece ++ separator :: separator :: back) = some (piece, back) := by
  induction piece with
  | nil => simp [cutAtPair]
  | cons d more ih =>
    obtain ⟨first, more_free⟩ := List.ne_and_not_mem_of_not_mem_cons free
    have step : cutAtPair separator (d :: (more ++ separator :: separator :: back))
        = (cutAtPair separator (more ++ separator :: separator :: back)).map
            fun (front, back) => (d :: front, back) := by
      cases more <;> simp [cutAtPair, first.symm]
    rw [List.cons_append, step, ih more_free, Option.map_some]

end Text

end FlowCollector
