/-!
# Numerals

Numbers as text: digits of one base, nothing else. A sign, a blank, a separator between digits or an
empty text is not a numeral; a format that allows one of these takes it off first. Letters stand for
the digits from ten on and are read in either case, while writing uses the small ones.
-/

set_option autoImplicit false

namespace FlowCollector.Numeral

/-- What a character counts as a digit, in any base up to sixteen, whether the letter is small or not. -/
def digitValue? (c : Char) : Option Nat :=
  if '0' ≤ c ∧ c ≤ '9' then some (c.toNat - '0'.toNat)
  else if 'a' ≤ c ∧ c ≤ 'f' then some (c.toNat - 'a'.toNat + 10)
  else if 'A' ≤ c ∧ c ≤ 'F' then some (c.toNat - 'A'.toNat + 10)
  else none

/-- What a character counts as a digit of the given base: its `digitValue?`, if that is below the base. -/
def digit? (base : Nat) (c : Char) : Option Nat :=
  (digitValue? c).filter (· < base)

/-- True of a `digit?` of the given base. -/
def isDigit (base : Nat) (c : Char) : Bool := (digit? base c).isSome

/-- The value of the digits, following on `value`. No number of digits is too large. -/
def readOn? (base : Nat) : (value : Nat) → List Char → Option Nat
  | value, [] => some value
  | value, c :: rest =>
    match digit? base c with
    | some digit => readOn? base (value * base + digit) rest
    | none => none

/-- The number that a non-empty run of digits spells, by `readOn?`. Zeros in front are digits as well. -/
def read? (base : Nat) : List Char → Option Nat
  | [] => none
  | text => readOn? base 0 text

/-- The digits of a number, without zeros in front. `read?` reads them back. -/
def write (base value : Nat) : List Char := Nat.toDigits base value

/-- A number of a limited range, as settings and variables write one: digits of base ten, which `read?` reads, with a
plus sign allowed in front of them. -/
def unsigned? (limit : Nat) (text : List Char) : Option Nat :=
  let digits := match text with
    | '+' :: rest => rest
    | _ => text
  (read? 10 digits).filter (· < limit)

end FlowCollector.Numeral
