import FlowCollector.Json

/-!
# The words of JSON text

JSON text is cut into words first, by `tokens?`: brackets, commas, colons, literals, numbers and strings. A text that
cannot be cut has no value. Blanks are the four characters of the format (`isBlank`) and not those of Unicode.
-/

set_option autoImplicit false

namespace FlowCollector.Json

/-- A word of JSON text. Literals, numbers and strings are values already, and stand in `Token.scalar`. -/
inductive Token where
  | openArray
  | closeArray
  | openObject
  | closeObject
  | comma
  | colon
  | scalar (value : Json)
  deriving Repr, Inhabited

/-- What stands between quotes: a character, or the number of an escape. -/
inductive Piece where
  | char (c : Char)
  | unit (code : Nat)
  deriving Repr

/-- The character of an escape of one letter. `Json.escape` writes five of these eight. -/
def escaped? : Char → Option Char
  | '"' => some '"'
  | '\\' => some '\\'
  | '/' => some '/'
  | 'b' => some (Char.ofNat 8)
  | 'f' => some (Char.ofNat 12)
  | 'n' => some '\n'
  | 'r' => some '\r'
  | 't' => some '\t'
  | _ => none

/-- Reads the pieces of a string up to the quote behind it, and what follows the quote. `textOfPieces?` puts them
together. -/
def readPieces? : List Char → Option (List Piece × List Char)
  | [] => none
  | '"' :: rest => some ([], rest)
  | '\\' :: 'u' :: a :: b :: c :: d :: rest => do
    let code ← Numeral.read? 16 [a, b, c, d]
    let (pieces, rest) ← readPieces? rest
    return (.unit code :: pieces, rest)
  | '\\' :: letter :: rest => do
    let c ← escaped? letter
    let (pieces, rest) ← readPieces? rest
    return (.char c :: pieces, rest)
  | c :: rest =>
    if c = '\\' ∨ c.toNat < 32 then none
    else do
      let (pieces, rest) ← readPieces? rest
      return (.char c :: pieces, rest)

/-- True of the numbers that are the first half of a character beyond sixteen bits. -/
def isFirstHalf (code : Nat) : Bool := 0xd800 ≤ code && code < 0xdc00

def isSecondHalf (code : Nat) : Bool := 0xdc00 ≤ code && code < 0xe000

/-- The text of pieces, unless one `isFirstHalf` or `isSecondHalf` of a character without the other. Then the string
denotes no text. -/
def textOfPieces? : List Piece → Option (List Char)
  | [] => some []
  | .char c :: rest => (textOfPieces? rest).map (c :: ·)
  | .unit first :: .unit second :: rest =>
    if isFirstHalf first then
      if isSecondHalf second then
        let code := 0x10000 + (first - 0xd800) * 0x400 + (second - 0xdc00)
        (textOfPieces? rest).map (Char.ofNat code :: ·)
      else none
    else if isSecondHalf first then none
    else (textOfPieces? (.unit second :: rest)).map (Char.ofNat first :: ·)
  | .unit code :: rest =>
    if isFirstHalf code || isSecondHalf code then none
    else (textOfPieces? rest).map (Char.ofNat code :: ·)

/-- The digits in front, and what follows them. -/
def spanDigits (text : List Char) : List Char × List Char :=
  (text.takeWhile (Numeral.isDigit 10), text.dropWhile (Numeral.isDigit 10))

/-- The fraction in front, if there is one: a point and digits. A point without digits is no number. -/
def spanFraction? : List Char → Option (List Char × List Char)
  | '.' :: rest =>
    let (digits, rest) := spanDigits rest
    if digits.isEmpty then none else some ('.' :: digits, rest)
  | text => some ([], text)

/-- The exponent in front, if there is one: the letter, a sign, and digits. -/
def spanExponent? : List Char → Option (List Char × List Char)
  | letter :: rest =>
    if letter = 'e' ∨ letter = 'E' then
      let (sign, rest) := match rest with
        | '+' :: rest => (['+'], rest)
        | '-' :: rest => (['-'], rest)
        | _ => ([], rest)
      let (digits, rest) := spanDigits rest
      if digits.isEmpty then none else some (letter :: sign ++ digits, rest)
    else some ([], letter :: rest)
  | [] => some ([], [])

def spanSign : List Char → List Char × List Char
  | '-' :: rest => (['-'], rest)
  | text => ([], text)

/-- Reads a number: a sign, digits without a zero in front, a fraction, an exponent. Digits alone are `Json.natural`,
and every other number is kept as it is written. -/
def readNumber? (text : List Char) : Option (Json × List Char) := do
  let (sign, unsigned) := spanSign text
  let (digits, rest) := spanDigits unsigned
  if digits.isEmpty || (digits.head? == some '0' && digits.length != 1) then none
  else
    let (fraction, rest) ← spanFraction? rest
    let (exponent, rest) ← spanExponent? rest
    if sign.isEmpty && fraction.isEmpty && exponent.isEmpty then
      return (.natural (← Numeral.read? 10 digits), rest)
    else return (.number (String.ofList (sign ++ digits ++ fraction ++ exponent)), rest)

/-- True of the characters that may stand between words. -/
def isBlank (c : Char) : Bool := c == ' ' || c == '\n' || c == '\r' || c == '\t'

/-- The first word of a text without blanks in front, and what follows it. -/
def Token.read? : List Char → Option (Token × List Char)
  | '[' :: rest => some (.openArray, rest)
  | ']' :: rest => some (.closeArray, rest)
  | '\x7b' :: rest => some (.openObject, rest)
  | '\x7d' :: rest => some (.closeObject, rest)
  | ',' :: rest => some (.comma, rest)
  | ':' :: rest => some (.colon, rest)
  | '"' :: rest => do
    let (pieces, rest) ← readPieces? rest
    return (.scalar (.string ((textOfPieces? pieces).map String.ofList)), rest)
  | 't' :: 'r' :: 'u' :: 'e' :: rest => some (.scalar (.bool true), rest)
  | 'f' :: 'a' :: 'l' :: 's' :: 'e' :: rest => some (.scalar (.bool false), rest)
  | 'n' :: 'u' :: 'l' :: 'l' :: rest => some (.scalar .null, rest)
  | text => (readNumber? text).map fun (value, rest) => (.scalar value, rest)

/-! ## What a word leaves

Every word takes at least one character, so cutting a text into words comes to an end. -/

theorem length_readPieces_lt {text after : List Char} {pieces : List Piece}
    (h : readPieces? text = some (pieces, after)) : after.length < text.length := by
  fun_induction readPieces? text generalizing pieces after with
  | case1 => cases h
  | case2 rest =>
    obtain ⟨-, rfl⟩ := Prod.mk.inj (Option.some.inj h)
    exact Nat.lt_succ_self _
  | case3 a b c d rest ih =>
    simp only [Option.bind_eq_bind, Option.bind_eq_some_iff, Option.pure_def,
      Option.some.injEq] at h
    obtain ⟨_, -, ⟨_, _⟩, inner, same⟩ := h
    obtain ⟨-, rfl⟩ := Prod.mk.inj same
    have := ih inner
    simp only [List.length_cons]
    omega
  | case4 letter rest _ ih =>
    simp only [Option.bind_eq_bind, Option.bind_eq_some_iff, Option.pure_def,
      Option.some.injEq] at h
    obtain ⟨_, -, ⟨_, _⟩, inner, same⟩ := h
    obtain ⟨-, rfl⟩ := Prod.mk.inj same
    have := ih inner
    simp only [List.length_cons]
    omega
  | case5 => cases h
  | case6 c rest _ _ _ _ ih =>
    simp only [Option.bind_eq_bind, Option.bind_eq_some_iff, Option.pure_def,
      Option.some.injEq] at h
    obtain ⟨⟨_, _⟩, inner, same⟩ := h
    obtain ⟨-, rfl⟩ := Prod.mk.inj same
    have := ih inner
    simp only [List.length_cons]
    omega

/-- Digits and what follows them are the text. -/
theorem spanDigits_append (text : List Char) :
    (spanDigits text).1 ++ (spanDigits text).2 = text := List.takeWhile_append_dropWhile

theorem length_spanDigits_le (text : List Char) : (spanDigits text).2.length ≤ text.length := by
  have whole := congrArg List.length (spanDigits_append text)
  rw [List.length_append] at whole
  omega

theorem length_spanDigits_lt {text : List Char} (h : (spanDigits text).1.isEmpty = false) :
    (spanDigits text).2.length < text.length := by
  have whole := congrArg List.length (spanDigits_append text)
  rw [List.length_append] at whole
  have := List.length_pos_iff.2 (List.isEmpty_eq_false_iff.1 h)
  omega

theorem length_spanFraction_le {text fraction after : List Char}
    (h : spanFraction? text = some (fraction, after)) : after.length ≤ text.length := by
  unfold spanFraction? at h
  split at h
  case _ rest =>
    have := length_spanDigits_le rest
    dsimp only at h
    split at h
    · cases h
    · obtain ⟨-, rfl⟩ := Prod.mk.inj (Option.some.inj h)
      exact Nat.le_succ_of_le this
  · obtain ⟨-, rfl⟩ := Prod.mk.inj (Option.some.inj h)
    exact Nat.le_refl _

theorem length_spanExponent_le {text exponent after : List Char}
    (h : spanExponent? text = some (exponent, after)) : after.length ≤ text.length := by
  unfold spanExponent? at h
  split at h
  case _ letter rest =>
    split at h
    · dsimp only at h
      split at h
      all_goals
        split at h
        · cases h
        · obtain ⟨-, rfl⟩ := Prod.mk.inj (Option.some.inj h)
          refine Nat.le_trans (length_spanDigits_le _) ?_
          simp only [List.length_cons]
          omega
    · obtain ⟨-, rfl⟩ := Prod.mk.inj (Option.some.inj h)
      exact Nat.le_refl _
  · obtain ⟨-, rfl⟩ := Prod.mk.inj (Option.some.inj h)
    exact Nat.le_refl _

theorem length_spanSign_le (text : List Char) : (spanSign text).2.length ≤ text.length := by
  unfold spanSign
  split
  · exact Nat.le_succ _
  · exact Nat.le_refl _

theorem length_readNumber_lt {text after : List Char} {value : Json}
    (h : readNumber? text = some (value, after)) : after.length < text.length := by
  unfold readNumber? at h
  have := length_spanSign_le text
  simp only [Option.bind_eq_bind, Option.pure_def] at h
  split at h
  · cases h
  case _ digits =>
    simp only [Bool.or_eq_true, not_or, Bool.not_eq_true] at digits
    have := length_spanDigits_lt digits.1
    obtain ⟨⟨fraction, behind⟩, fractions, h⟩ := Option.bind_eq_some_iff.1 h
    obtain ⟨⟨exponent, rest⟩, exponents, h⟩ := Option.bind_eq_some_iff.1 h
    have := length_spanFraction_le fractions
    have := length_spanExponent_le exponents
    have same : after = rest := by
      dsimp only at h
      split at h
      · obtain ⟨_, -, same⟩ := Option.bind_eq_some_iff.1 h
        exact ((Prod.mk.inj (Option.some.inj same)).2).symm
      · exact ((Prod.mk.inj (Option.some.inj h)).2).symm
    subst same
    dsimp only at *
    omega

/-- A word leaves less than there was, so `tokens?` comes to an end. -/
theorem Token.length_read_lt {text after : List Char} {token : Token}
    (h : Token.read? text = some (token, after)) : after.length < text.length := by
  unfold Token.read? at h
  split at h
  case h_7 rest =>
    simp only [Option.bind_eq_bind, Option.bind_eq_some_iff, Option.pure_def,
      Option.some.injEq] at h
    obtain ⟨⟨_, _⟩, inner, same⟩ := h
    obtain ⟨-, rfl⟩ := Prod.mk.inj same
    exact Nat.lt_succ_of_lt (length_readPieces_lt inner)
  case h_11 =>
    obtain ⟨⟨_, _⟩, inner, same⟩ := Option.map_eq_some_iff.1 h
    obtain ⟨-, rfl⟩ := Prod.mk.inj same
    exact length_readNumber_lt inner
  all_goals
    obtain ⟨-, rfl⟩ := Prod.mk.inj (Option.some.inj h)
    simp only [List.length_cons]
    omega

/-- The words of a text, as many as `Token.read?` finds between blanks up to its end. -/
def tokens? (text : List Char) : Option (List Token) :=
  match text with
  | [] => some []
  | c :: rest =>
    if isBlank c then tokens? rest
    else
      match _read : Token.read? (c :: rest) with
      | none => none
      | some (token, after) => (tokens? after).map (token :: ·)
termination_by text.length
decreasing_by
  · exact Nat.lt_succ_self _
  · exact Token.length_read_lt _read

end FlowCollector.Json
