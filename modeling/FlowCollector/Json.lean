import FlowCollector.Text.Numeral

/-!
# JSON values and how they are written

`Json.render` writes values without any space, members in the order they have. A string escapes what it must: the
quote, the backslash and the control characters, with the short forms where there is one. All else stands as it is.

Two constructors hold what the language of values alone does not explain. A number that is not a plain natural number
is kept as written, since no member of any record is one and its value is of no interest. A string may be escaped so
that it ends in half of a character; it is then a string that denotes no text, and `none` stands for all such strings.
-/

set_option autoImplicit false

namespace FlowCollector

/-- A JSON value, as `Json.ofText?` reads it and `Json.render` writes it. -/
inductive Json where
  | null
  | bool (value : Bool)
  | natural (value : Nat)
  | number (literal : String)
  | string (text : Option String)
  | array (items : List Json)
  | object (members : List (Option String × Json))
  deriving Repr, Inhabited

namespace Json

/-- A string that denotes a text. The other strings are `Json.string none`. -/
def text (content : String) : Json := .string (some content)

/-- An object whose keys denote texts, as every record and every report is written. -/
def record (members : List (String × Json)) : Json :=
  .object (members.map fun (key, value) => (some key, value))

/-- How a character stands in a string: as it is, or as an escape of one letter, or as `\u` and four digits. -/
def escape (c : Char) : List Char :=
  if c = '"' then ['\\', '"']
  else if c = '\\' then ['\\', '\\']
  else if c = '\n' then ['\\', 'n']
  else if c = '\r' then ['\\', 'r']
  else if c = '\t' then ['\\', 't']
  else if c.toNat = 8 then ['\\', 'b']
  else if c.toNat = 12 then ['\\', 'f']
  else if c.toNat < 32 then
    let digits := Numeral.write 16 c.toNat
    ['\\', 'u'] ++ List.replicate (4 - digits.length) '0' ++ digits
  else [c]

/-- A text in quotes, each character by `escape`. -/
def quote (content : List Char) : List Char := '"' :: content.flatMap escape ++ ['"']

/-- A string in quotes. One that denotes no text is written as half of a character, and is read as the same. -/
def quoteString : Option String → List Char
  | some content => quote content.toList
  | none => "\"\\ud800\"".toList

mutual

/-- The text of a value, as characters. It is one recursion over the value and the rows of items and members in it. -/
def chars : Json → List Char
  | .null => "null".toList
  | .bool true => "true".toList
  | .bool false => "false".toList
  | .natural value => Numeral.write 10 value
  | .number literal => literal.toList
  | .string content => quoteString content
  | .array items => '[' :: itemsChars items
  | .object members => '\x7b' :: membersChars members

/-- The items of an array, and the bracket behind them. -/
def itemsChars : List Json → List Char
  | [] => [']']
  | item :: others => item.chars ++ moreItemsChars others

def moreItemsChars : List Json → List Char
  | [] => [']']
  | item :: others => ',' :: (item.chars ++ moreItemsChars others)

/-- The members of an object, and the brace behind them. -/
def membersChars : List (Option String × Json) → List Char
  | [] => ['\x7d']
  | (key, value) :: others => quoteString key ++ ':' :: (value.chars ++ moreMembersChars others)

def moreMembersChars : List (Option String × Json) → List Char
  | [] => ['\x7d']
  | (key, value) :: others =>
    ',' :: (quoteString key ++ ':' :: (value.chars ++ moreMembersChars others))

end

/-- The text of a value, by `chars`. -/
def render (value : Json) : String := String.ofList value.chars

end Json

end FlowCollector
