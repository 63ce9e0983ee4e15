import FlowCollector.Text.Numeral
import FlowCollector.Text.Split
import FlowCollector.Toml

/-!
# Numbers, dates and truth values

What may stand for a value without quotes or brackets. The forms exclude one another, so it does not
matter in which order they are tried, and a text of none of the forms is no value.

An underscore may stand between two digits and nowhere else. A date is checked against the calendar, and
then forgotten.
-/

set_option autoImplicit false

namespace FlowCollector.Toml

/-! ## Integers -/

/-- The digits of a number of the given base, underscores taken out. There is none if one does not stand between two
digits. -/
def digits? (base : Nat) (text : List Char) : Option (List Char) :=
  let groups := Text.pieces '_' text
  if groups.all fun group => !group.isEmpty && group.all (Numeral.isDigit base) then
    some groups.flatten
  else none

/-- The number that `digits?` of the given base spell. -/
def digitsValue? (base : Nat) (text : List Char) : Option Nat := do
  Numeral.read? base (← digits? base text)

/-- Decimal `digits?` without a zero in front, underscores taken out. -/
def wholeDigits? (text : List Char) : Option (List Char) :=
  if text.head? = some '0' ∧ text ≠ ['0'] then none else digits? 10 text

/-- A sign in front, true for minus, and what follows it. -/
def sign (text : List Char) : Bool × List Char :=
  match text with
  | '-' :: rest => (true, rest)
  | '+' :: rest => (false, rest)
  | _ => (false, text)

/-- An integer: decimal `wholeDigits?` with a sign, or one without a sign in base sixteen, eight or two. -/
def integer? (text : List Char) : Option Int :=
  match text with
  | '0' :: 'x' :: rest => (digitsValue? 16 rest).map Int.ofNat
  | '0' :: 'o' :: rest => (digitsValue? 8 rest).map Int.ofNat
  | '0' :: 'b' :: rest => (digitsValue? 2 rest).map Int.ofNat
  | _ => do
    let (negative, rest) := sign text
    let value ← Numeral.read? 10 (← wholeDigits? rest)
    return if negative then -(value : Int) else value

/-! ## Floats -/

/-- The least positive number that is too great for a double: half a unit in the last place above the
greatest one. -/
def doubleBound : Nat := Nat.pow 2 1024 - Nat.pow 2 970

/-- True when `value` · 10 ^ `exponent` is in the range of doubles. The number of places settles all but a
few cases, so that no power is computed whose exponent was merely written down. -/
def isDouble (value : Nat) (exponent : Int) : Bool :=
  let places : Int := (Numeral.write 10 value).length + exponent
  if value = 0 ∨ places ≤ 308 then true
  else if 310 < places then false
  else value * Nat.pow 10 exponent.toNat < doubleBound * Nat.pow 10 (-exponent).toNat

/-- The exponent behind a float's digits, zero if there is none. Its digits may start with zeros. -/
def exponent? (text : List Char) : Option Int :=
  match text with
  | [] => some 0
  | _ :: rest => do
    let (negative, rest) := sign rest
    let value ← digitsValue? 10 rest
    return if negative then -(value : Int) else value

/-- A float: digits with a fraction, an exponent or both, or one of the values that are no number. Gives whether a
double holds it (`isDouble`). -/
def float? (text : List Char) : Option Bool := do
  let (_, unsigned) := sign text
  if unsigned = "inf".toList ∨ unsigned = "nan".toList then return true
  else
    let isLetter (c : Char) : Bool := c == 'e' || c == 'E'
    let front := unsigned.takeWhile (!isLetter ·)
    let back := unsigned.dropWhile (!isLetter ·)
    let exponent ← exponent? back
    match Text.cutAt '.' front with
    | some (whole, fraction) =>
      let whole ← wholeDigits? whole
      let fraction ← digits? 10 fraction
      return isDouble (← Numeral.read? 10 (whole ++ fraction)) (exponent - fraction.length)
    | none =>
      if back.isEmpty then none
      else return isDouble (← Numeral.read? 10 (← wholeDigits? front)) exponent

/-! ## Dates and times -/

/-- How many days a month has, of the calendar that is in use, for any year. -/
def daysOfMonth (year month : Nat) : Nat :=
  if month = 2 then
    if year % 4 = 0 ∧ (year % 100 ≠ 0 ∨ year % 400 = 0) then 29 else 28
  else if month ∈ [4, 6, 9, 11] then 30
  else 31

/-- A number of exactly two digits, if it is in the range. -/
def two? (least most : Nat) (a b : Char) : Option Nat :=
  (Numeral.read? 10 [a, b]).filter fun value => least ≤ value && value ≤ most

/-- What follows a date, if there is one in front and the calendar has it (`daysOfMonth`). -/
def afterDate? : List Char → Option (List Char)
  | y₁ :: y₂ :: y₃ :: y₄ :: '-' :: m₁ :: m₂ :: '-' :: d₁ :: d₂ :: rest => do
    let year ← Numeral.read? 10 [y₁, y₂, y₃, y₄]
    let month ← two? 1 12 m₁ m₂
    let _ ← two? 1 (daysOfMonth year month) d₁ d₂
    return rest
  | _ => none

/-- What follows a fraction of a second, which may be missing. -/
def afterFraction? : List Char → Option (List Char)
  | '.' :: rest =>
    let digits := rest.takeWhile (Numeral.isDigit 10)
    if digits.isEmpty then none else some (rest.drop digits.length)
  | text => some text

/-- What follows a time, whose seconds may be missing. A minute may have sixty-one seconds. -/
def afterTime? : List Char → Option (List Char)
  | h₁ :: h₂ :: ':' :: m₁ :: m₂ :: rest => do
    let _ ← two? 0 23 h₁ h₂
    let _ ← two? 0 59 m₁ m₂
    match rest with
    | ':' :: s₁ :: s₂ :: rest => do
      let _ ← two? 0 60 s₁ s₂
      afterFraction? rest
    | ':' :: _ => none
    | _ => return rest
  | _ => none

/-- True of nothing, and of the distance from universal time, which may stand behind a date with a time. -/
def isOffset : List Char → Bool
  | [] => true
  | [letter] => letter == 'Z' || letter == 'z'
  | [direction, h₁, h₂, ':', m₁, m₂] =>
    (direction == '+' || direction == '-') && (two? 0 23 h₁ h₂).isSome && (two? 0 59 m₁ m₂).isSome
  | _ => false

/-- True of a date, a time, and a date with a time, by `afterDate?` and `afterTime?`. -/
def isDatetime (text : List Char) : Bool :=
  match afterDate? text with
  | some [] => true
  | some (between :: rest) =>
    (between == 'T' || between == 't' || between == ' ') && (afterTime? rest).any isOffset
  | none => afterTime? text == some []

/-! ## Values -/

/-- The value of a text without quotes or brackets: a truth value, an `integer?`, a `float?` or a date. -/
def scalar? (text : List Char) : Option Toml :=
  if text = "true".toList then some (.boolean true)
  else if text = "false".toList then some (.boolean false)
  else
    match integer? text with
    | some value => some (.integer value)
    | none =>
      match float? text with
      | some inRange => some (.float inRange)
      | none => if isDatetime text then some .datetime else none

end FlowCollector.Toml
