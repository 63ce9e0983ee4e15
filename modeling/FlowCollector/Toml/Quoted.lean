import FlowCollector.Text.Numeral

/-!
# Strings

Four kinds: between two kinds of quotes, on one line or on several. Between double quotes a backslash
starts an escape; between single quotes nothing does. On several lines the line break behind the opening
quotes is not part of the text, all line breaks are read as line feeds, and one or two quotes may stand
directly before the closing three.

A string that is not closed, holds a control character other than the tab, or a carriage return that no
line feed follows, is none.
-/

set_option autoImplicit false

namespace FlowCollector.Toml

/-- True of the characters that may stand in strings and comments: the tab, and all but the other control
characters. -/
def isAllowed (c : Char) : Bool := c == '\t' || (32 ≤ c.toNat && c.toNat != 127)

def isBlank (c : Char) : Bool := c == ' ' || c == '\t'

/-- The character of a number in base sixteen, if it has one. Half characters have none. -/
def scalarChar? (digits : List Char) : Option Char := do
  let code ← Numeral.read? 16 digits
  if code < 0xd800 ∨ (0xe000 ≤ code ∧ code < 0x110000) then some (.ofNat code) else none

/-- The character of an escape of one letter. Those with a number go through `scalarChar?`. -/
def escaped? : Char → Option Char
  | 'b' => some (.ofNat 8)
  | 't' => some '\t'
  | 'n' => some '\n'
  | 'f' => some (.ofNat 12)
  | 'r' => some '\r'
  | 'e' => some (.ofNat 27)
  | '"' => some '"'
  | '\\' => some '\\'
  | _ => none

/-- The closing quotes of a string, if it ends here: the quotes in front of them that still belong to the
string, and what follows. -/
def closing? (several : Bool) (quote : Char) (text : List Char) : Option (List Char × List Char) :=
  if several then
    match text with
    | a :: b :: c :: rest =>
      if a = quote ∧ b = quote ∧ c = quote then
        let last := (rest.takeWhile (· == quote)).take 2
        some (last, rest.drop last.length)
      else none
    | _ => none
  else
    match text with
    | c :: rest => if c = quote then some ([], rest) else none
    | [] => none

/-- A character in front of what was cut off from the rest. -/
def prepend (c : Char) : List Char × List Char → List Char × List Char
  | (text, rest) => (c :: text, rest)

/-- Cuts a string off behind its opening quotes where `closing?` finds its end: what it holds, as written, and what
follows it. Between double quotes the character behind a backslash closes nothing. -/
def cutString? (several : Bool) (quote : Char) : List Char → Option (List Char × List Char)
  | [] => none
  | c :: rest =>
    match closing? several quote (c :: rest) with
    | some cut => some cut
    | none =>
      if c = '\\' ∧ quote = '"' then
        match rest with
        | [] => none
        | d :: rest => (cutString? several quote rest).map (prepend c ∘ prepend d)
      else (cutString? several quote rest).map (prepend c)

def endsLine (text : List Char) : Bool :=
  match text.dropWhile isBlank with
  | '\n' :: _ => true
  | '\r' :: '\n' :: _ => true
  | _ => false

/-- What a string between single quotes holds, where a backslash is a character like others. -/
def literalContent? (several : Bool) : List Char → Option (List Char)
  | [] => some []
  | '\n' :: rest => if several then (literalContent? several rest).map ('\n' :: ·) else none
  | '\r' :: '\n' :: rest => if several then (literalContent? several rest).map ('\n' :: ·) else none
  | c :: rest => if isAllowed c then (literalContent? several rest).map (c :: ·) else none

/-- What a string between double quotes holds. A backslash at the end of a line takes the line break and
all blanks and line breaks behind it away: `skipping` is true between them. -/
def escapedContent? (several : Bool) : (skipping : Bool) → List Char → Option (List Char)
  | _, [] => some []
  | true, ' ' :: rest => escapedContent? several true rest
  | true, '\t' :: rest => escapedContent? several true rest
  | true, '\n' :: rest => escapedContent? several true rest
  | true, '\r' :: '\n' :: rest => escapedContent? several true rest
  | _, '\n' :: rest =>
    if several then (escapedContent? several false rest).map ('\n' :: ·) else none
  | _, '\r' :: '\n' :: rest =>
    if several then (escapedContent? several false rest).map ('\n' :: ·) else none
  | _, '\\' :: 'x' :: a :: b :: rest => do
    return (← scalarChar? [a, b]) :: (← escapedContent? several false rest)
  | _, '\\' :: 'u' :: a :: b :: c :: d :: rest => do
    return (← scalarChar? [a, b, c, d]) :: (← escapedContent? several false rest)
  | _, '\\' :: 'U' :: a :: b :: c :: d :: e :: f :: g :: h :: rest => do
    return (← scalarChar? [a, b, c, d, e, f, g, h]) :: (← escapedContent? several false rest)
  | _, '\\' :: letter :: rest =>
    if several && endsLine (letter :: rest) then escapedContent? several true rest
    else do return (← escaped? letter) :: (← escapedContent? several false rest)
  | _, c :: rest =>
    if c ≠ '\\' ∧ isAllowed c then (escapedContent? several false rest).map (c :: ·) else none

/-- A text without a line break in front, as a string on several lines may have one there. -/
def dropLineBreak : List Char → List Char
  | '\n' :: rest => rest
  | '\r' :: '\n' :: rest => rest
  | text => text

/-- Reads a string behind its opening quotes: `cutString?` finds its end, and the kind of quotes tells what of it is
an escape. -/
def readQuoted? (several : Bool) (quote : Char) (text : List Char) :
    Option (String × List Char) := do
  let (written, rest) ← cutString? several quote text
  let written := if several then dropLineBreak written else written
  let content ←
    if quote = '"' then escapedContent? several false written else literalContent? several written
  return (.ofList content, rest)

/-- Reads a string that may have several lines, with its quotes. -/
def readString? : List Char → Option (String × List Char)
  | '"' :: '"' :: '"' :: rest => readQuoted? true '"' rest
  | '\'' :: '\'' :: '\'' :: rest => readQuoted? true '\'' rest
  | '"' :: rest => readQuoted? false '"' rest
  | '\'' :: rest => readQuoted? false '\'' rest
  | _ => none

end FlowCollector.Toml
