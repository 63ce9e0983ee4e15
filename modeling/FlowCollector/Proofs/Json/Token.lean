import FlowCollector.Json.Token
import FlowCollector.Proofs.Text

/-!
# Words written and read back

The text of a value is cut into words again, and each word must be found whatever stands behind it. Brackets and strings
say themselves where they end. A number does not, and that is why a text is `Cut` only in front of what `Ends` it.

A string is read in pieces before it is a text. Most characters stand for themselves or have a letter of their own; the
other control characters are written as numbers, which are far below those of half characters.
-/

set_option autoImplicit false

namespace FlowCollector.Json

/-! ## Strings -/

theorem read?_control : ∀ code < 32,
    let digits := Numeral.write 16 code
    let padded := List.replicate (4 - digits.length) '0' ++ digits
    padded.length = 4 ∧ Numeral.read? 16 padded = some code ∧ padded.all (fun c => 32 ≤ c.toNat) = true := by
  decide

theorem textOfPieces?_unit {code : Nat} (whole : code < 0xd800) (rest : List Piece) :
    textOfPieces? (.unit code :: rest) = (textOfPieces? rest).map (Char.ofNat code :: ·) := by
  have first : isFirstHalf code = false := by simp [isFirstHalf]; omega
  have second : isSecondHalf code = false := by simp [isSecondHalf]; omega
  match rest with
  | [] => simp [textOfPieces?, first, second]
  | .char c :: rest => simp [textOfPieces?, first, second]
  | .unit next :: rest => rw [textOfPieces?]; simp [first, second]

/-- What is written is read as one `Piece`, and that piece is the character. -/
structure Spelling (c : Char) (written : List Char) (piece : Piece) : Prop where
  denotes : ∀ more, textOfPieces? (piece :: more) = (textOfPieces? more).map (c :: ·)
  read : ∀ rest pieces after, readPieces? rest = some (pieces, after) →
    readPieces? (written ++ rest) = some (piece :: pieces, after)

theorem Spelling.letter {letter c : Char} (other : letter ≠ 'u') (short : escaped? letter = some c) :
    Spelling c ['\\', letter] (.char c) := by
  refine ⟨fun _ => rfl, ?_⟩
  intro rest pieces after behind
  show readPieces? ('\\' :: letter :: rest) = _
  rw [readPieces?]
  · rw [short, behind]
    rfl
  · rintro _ _ _ _ _ rfl
    exact absurd rfl other

theorem Spelling.control {c : Char} (control : c.toNat < 32) :
    let digits := Numeral.write 16 c.toNat
    Spelling c (['\\', 'u'] ++ List.replicate (4 - digits.length) '0' ++ digits) (.unit c.toNat) := by
  intro digits
  obtain ⟨four, value, -⟩ := read?_control c.toNat control
  constructor
  · intro more
    rw [textOfPieces?_unit (by omega), Char.ofNat_toNat]
  · intro rest pieces after behind
    -- There are four digits for certain, and reading takes no fewer.
    obtain ⟨a, b, c, d, padded⟩ : ∃ a b c d, List.replicate (4 - digits.length) '0' ++ digits = [a, b, c, d] := by
      match h : List.replicate (4 - digits.length) '0' ++ digits, four with
      | [a, b, c, d], _ => exact ⟨a, b, c, d, rfl⟩
    rw [padded] at value
    rw [List.append_assoc ['\\', 'u'], padded]
    show readPieces? ('\\' :: 'u' :: a :: b :: c :: d :: rest) = _
    rw [readPieces?, value, behind]
    rfl

theorem Spelling.itself {c : Char} (quote : c ≠ '"') (backslash : c ≠ '\\') (printed : ¬ c.toNat < 32) :
    Spelling c [c] (.char c) := by
  refine ⟨fun _ => rfl, ?_⟩
  intro rest pieces after behind
  show readPieces? (c :: rest) = _
  rw [readPieces?]
  · rw [if_neg (not_or.2 ⟨backslash, printed⟩), behind]
    rfl
  · exact quote
  · intro _ _ _ _ _ same
    exact absurd same backslash
  · intro _ _ same
    exact absurd same backslash

theorem Spelling.exists (c : Char) : ∃ piece, Spelling c (escape c) piece := by
  unfold escape
  by_cases quote : c = '"'
  · subst quote
    exact ⟨_, .letter (by decide) rfl⟩
  by_cases backslash : c = '\\'
  · subst backslash
    exact ⟨_, .letter (by decide) rfl⟩
  rw [if_neg quote, if_neg backslash]
  split
  case isTrue newline =>
    subst newline
    exact ⟨_, .letter (by decide) rfl⟩
  split
  case isTrue carriageReturn =>
    subst carriageReturn
    exact ⟨_, .letter (by decide) rfl⟩
  split
  case isTrue tab =>
    subst tab
    exact ⟨_, .letter (by decide) rfl⟩
  split
  case isTrue backspace =>
    obtain rfl : c = Char.ofNat 8 := by rw [← backspace, Char.ofNat_toNat]
    exact ⟨_, .letter (by decide) rfl⟩
  split
  case isTrue formFeed =>
    obtain rfl : c = Char.ofNat 12 := by rw [← formFeed, Char.ofNat_toNat]
    exact ⟨_, .letter (by decide) rfl⟩
  split
  case isTrue control => exact ⟨_, .control control⟩
  case isFalse printed => exact ⟨_, .itself quote backslash printed⟩

theorem exists_pieces (content : List Char) :
    ∃ pieces, textOfPieces? pieces = some content
      ∧ ∀ rest, readPieces? (content.flatMap escape ++ '"' :: rest) = some (pieces, rest) := by
  -- Pieces are read from the front, so what is behind a character has been read when its turn comes.
  induction content with
  | nil => exact ⟨[], rfl, fun rest => by simp [readPieces?]⟩
  | cons c others ih =>
    obtain ⟨pieces, text, read⟩ := ih
    obtain ⟨piece, denotes, first⟩ := Spelling.exists c
    refine ⟨piece :: pieces, by rw [denotes, text]; rfl, ?_⟩
    intro rest
    rw [List.flatMap_cons, List.append_assoc]
    exact first _ _ _ (read rest)

/-! ## Numbers -/

/-- What may stand behind a value. Nothing of it could be taken for more of a number, the only word that does not say
where it ends. -/
def Ends (rest : List Char) : Prop :=
  ∀ c ∈ rest.head?, c = ',' ∨ c = ']' ∨ c = '\x7d' ∨ isBlank c = true

theorem Ends.cons {c : Char} (closing : c = ',' ∨ c = ']' ∨ c = '\x7d' ∨ isBlank c = true)
    (rest : List Char) : Ends (c :: rest) := by
  intro d first
  obtain rfl := Option.some.inj first
  exact closing

/-- No number goes on with a character that `Ends` one. -/
theorem Ends.head {c : Char} {rest : List Char} (ends : Ends (c :: rest)) :
    Numeral.isDigit 10 c = false ∧ c ≠ '.' ∧ c ≠ 'e' ∧ c ≠ 'E' := by
  have closing := ends c rfl
  simp only [isBlank, Bool.or_eq_true, beq_iff_eq] at closing
  rcases closing with rfl | rfl | rfl | ((rfl | rfl) | rfl) | rfl <;> decide

theorem spanDigits_write (value : Nat) {rest : List Char} (ends : Ends rest) :
    spanDigits (Numeral.write 10 value ++ rest) = (Numeral.write 10 value, rest) := by
  have digits : ∀ c ∈ Numeral.write 10 value, Numeral.isDigit 10 c = true := fun c mem =>
    Numeral.isDigit_of_mem_write (by decide) (by decide) mem
  rw [spanDigits, List.takeWhile_append_of_pos digits, List.dropWhile_append_of_pos digits]
  cases rest with
  | nil => simp
  | cons c more =>
    have other := ends.head.1
    simp [other]

theorem spanFraction?_ends {rest : List Char} (ends : Ends rest) :
    spanFraction? rest = some ([], rest) := by
  unfold spanFraction?
  split
  · exact absurd rfl ends.head.2.1
  · rfl

theorem spanExponent?_ends {rest : List Char} (ends : Ends rest) :
    spanExponent? rest = some ([], rest) := by
  cases rest with
  | nil => rfl
  | cons c more =>
    obtain ⟨-, -, small, large⟩ := ends.head
    unfold spanExponent?
    exact if_neg (not_or.2 ⟨small, large⟩)

theorem readNumber?_write (value : Nat) {rest : List Char} (ends : Ends rest) :
    readNumber? (Numeral.write 10 value ++ rest) = some (.natural value, rest) := by
  have unsigned : spanSign (Numeral.write 10 value ++ rest) = ([], Numeral.write 10 value ++ rest) := by
    obtain ⟨c, more, starts⟩ := List.exists_cons_of_ne_nil (Numeral.write_ne_nil 10 value)
    have digit : Numeral.isDigit 10 c = true :=
      Numeral.isDigit_of_mem_write (by decide) (by decide) (starts ▸ List.mem_cons_self)
    rw [starts, List.cons_append, spanSign]
    rintro _ same
    obtain ⟨rfl, -⟩ := List.cons.inj same
    revert digit
    decide
  -- A number that starts with a zero would be refused, unless it is zero.
  have shape : ((Numeral.write 10 value).isEmpty
      || ((Numeral.write 10 value).head? == some '0' && (Numeral.write 10 value).length != 1)) = false := by
    have filled : (Numeral.write 10 value).isEmpty = false := by
      simpa using Numeral.write_ne_nil 10 value
    rcases Nat.eq_zero_or_pos value with rfl | positive
    · rfl
    · have first : (Numeral.write 10 value).head? ≠ some '0' := Numeral.head?_write (by decide) (by decide) positive
      simp [filled, first]
  have back : Numeral.read? 10 (Numeral.write 10 value) = some value :=
    Numeral.read?_write (by decide) (by decide) value
  unfold readNumber?
  simp only [unsigned, spanDigits_write value ends, shape, spanFraction?_ends ends, Option.bind_eq_bind,
    Option.bind_some, spanExponent?_ends ends, back]
  rfl

/-! ## Words -/

theorem tokens?_cons {c : Char} {rest after : List Char} {token : Token} (solid : isBlank c = false)
    (read : Token.read? (c :: rest) = some (token, after)) :
    tokens? (c :: rest) = (tokens? after).map (token :: ·) := by
  rw [tokens?, solid]
  simp only [Bool.false_eq_true, if_false]
  split
  · rename_i failed
    rw [read] at failed
    cases failed
  · rename_i found
    rw [read] at found
    obtain ⟨rfl, rfl⟩ := Prod.mk.inj (Option.some.inj found)
    rfl

theorem tokens?_blank {c : Char} (blank : isBlank c = true) (rest : List Char) :
    tokens? (c :: rest) = tokens? rest := by
  rw [tokens?, if_pos blank]

theorem tokens?_blanks {rest : List Char} (blank : ∀ c ∈ rest, isBlank c = true) :
    tokens? rest = some [] := by
  induction rest with
  | nil => rw [tokens?]
  | cons c rest ih =>
    rw [tokens?_blank (blank c List.mem_cons_self)]
    exact ih fun d mem => blank d (List.mem_cons_of_mem c mem)

/-- A text is cut into some words by `Token.read?`, whatever stands behind it that `Ends` it. -/
def Cut (text : List Char) (words : List Token) : Prop :=
  ∀ rest, Ends rest → tokens? (text ++ rest) = (tokens? rest).map (words ++ ·)

theorem Cut.of_read {c : Char} {text : List Char} {token : Token} (solid : isBlank c = false)
    (read : ∀ rest, Ends rest → Token.read? (c :: text ++ rest) = some (token, rest)) : Cut (c :: text) [token] := by
  intro rest ends
  exact tokens?_cons solid (read rest ends)

/-- What stands behind a text must be such that it `Ends` there; then their words stand one behind the other. -/
theorem Cut.append {front back : List Char} {words more : List Token} (first : Cut front words)
    (next : Cut back more) (ends : ∀ rest, Ends (back ++ rest)) : Cut (front ++ back) (words ++ more) := by
  intro rest behind
  rw [List.append_assoc, first _ (ends rest), next rest behind, Option.map_map]
  congr 1
  funext others
  exact (List.append_assoc ..).symm

/-- A bracket, a comma or a colon is a word wherever it stands, so nothing is asked of what stands behind it. -/
theorem Cut.cons {c : Char} {token : Token} {text : List Char} {words : List Token} (solid : isBlank c = false)
    (read : ∀ rest, Token.read? (c :: rest) = some (token, rest)) (next : Cut text words) :
    Cut (c :: text) (token :: words) := by
  intro rest behind
  rw [List.cons_append, tokens?_cons solid (read _), next rest behind, Option.map_map]
  rfl

theorem tokenRead?_quoteString (content : Option String) (rest : List Char) :
    Token.read? (quoteString content ++ rest) = some (.scalar (.string content), rest) := by
  cases content with
  | none => rfl
  | some content =>
    obtain ⟨pieces, text, read⟩ := exists_pieces content.toList
    have cut := read rest
    show Token.read? ('"' :: ((content.toList.flatMap escape ++ ['"']) ++ rest)) = _
    rw [List.append_assoc, List.singleton_append, Token.read?, cut]
    simp [text]

theorem exists_quoteString_eq_cons (content : Option String) : ∃ text, quoteString content = '"' :: text := by
  cases content with
  | none => exact ⟨_, rfl⟩
  | some content => exact ⟨_, rfl⟩

theorem cut_quoteString (content : Option String) : Cut (quoteString content) [.scalar (.string content)] := by
  have read := tokenRead?_quoteString content
  obtain ⟨text, quoted⟩ := exists_quoteString_eq_cons content
  rw [quoted] at read ⊢
  exact .of_read (by decide) fun rest _ => read rest

/-- A key, the colon, and what stands behind them, as a member of an object is written. -/
theorem Cut.member {text : List Char} {words : List Token} (key : Option String) (next : Cut text words) :
    Cut (quoteString key ++ ':' :: text) (.scalar (.string key) :: .colon :: words) := by
  intro rest behind
  have read := tokenRead?_quoteString key (':' :: (text ++ rest))
  obtain ⟨quoted, starts⟩ := exists_quoteString_eq_cons key
  rw [starts, List.cons_append] at read
  have colon : Cut (':' :: text) (.colon :: words) := .cons (by decide) (fun _ => rfl) next
  rw [List.append_assoc, starts, List.cons_append, List.cons_append, tokens?_cons (by decide) read,
    ← List.cons_append, colon rest behind, Option.map_map]
  rfl

theorem cut_natural (value : Nat) : Cut (Numeral.write 10 value) [.scalar (.natural value)] := by
  have read : ∀ rest, Ends rest → readNumber? (Numeral.write 10 value ++ rest) = some (.natural value, rest) :=
    fun rest ends => readNumber?_write value ends
  have digits : ∀ c ∈ Numeral.write 10 value, Numeral.isDigit 10 c = true := fun c mem =>
    Numeral.isDigit_of_mem_write (by decide) (by decide) mem
  obtain ⟨c, more, starts⟩ := List.exists_cons_of_ne_nil (Numeral.write_ne_nil 10 value)
  rw [starts] at read digits ⊢
  have digit := digits c List.mem_cons_self
  apply Cut.of_read
  · cases blank : isBlank c with
    | false => rfl
    | true => rw [(Ends.cons (.inr (.inr (.inr blank))) []).head.1] at digit; cases digit
  · intro rest ends
    have number := read rest ends
    rw [List.cons_append] at number ⊢
    unfold Token.read?
    split
    case h_11 => rw [number]; rfl
    all_goals
      rename_i same
      obtain ⟨rfl, -⟩ := List.cons.inj same
      exact absurd digit (by decide)

end FlowCollector.Json
