import FlowCollector.Json.Token

/-!
# Reading JSON text

One value, and nothing but blanks around it. The fuel of `readValue?` bounds the nesting. It is the number of words,
and each step uses up at least one of them, so it never runs out before the words do.
-/

set_option autoImplicit false

namespace FlowCollector.Json

mutual

/-- Reads a value from the front of some words, which `tokens?` has cut. -/
def readValue? : (fuel : Nat) → List Token → Option (Json × List Token)
  | 0, _ => none
  | fuel + 1, words =>
    match words with
    | .scalar value :: rest => some (value, rest)
    | .openArray :: .closeArray :: rest => some (.array [], rest)
    | .openArray :: rest => do
      let (items, rest) ← readItems? fuel rest
      return (.array items, rest)
    | .openObject :: .closeObject :: rest => some (.object [], rest)
    | .openObject :: rest => do
      let (members, rest) ← readMembers? fuel rest
      return (.object members, rest)
    | _ => none

/-- Reads one or more items, each by `readValue?`, and the bracket behind them. -/
def readItems? : (fuel : Nat) → List Token → Option (List Json × List Token)
  | 0, _ => none
  | fuel + 1, words => do
    let (item, rest) ← readValue? fuel words
    match rest with
    | .closeArray :: rest => some ([item], rest)
    | .comma :: rest => do
      let (others, rest) ← readItems? fuel rest
      return (item :: others, rest)
    | _ => none

/-- Reads one or more members, each a key and a value of `readValue?`, and the brace behind them. -/
def readMembers? : (fuel : Nat) → List Token → Option (List (Option String × Json) × List Token)
  | 0, _ => none
  | fuel + 1, words =>
    match words with
    | .scalar (.string key) :: .colon :: rest => do
      let (value, rest) ← readValue? fuel rest
      match rest with
      | .closeObject :: rest => some ([(key, value)], rest)
      | .comma :: rest => do
        let (others, rest) ← readMembers? fuel rest
        return ((key, value) :: others, rest)
      | _ => none
    | _ => none

end

/-- The value of a text, if all of its `tokens?` make one. -/
def ofChars? (text : List Char) : Option Json := do
  let words ← tokens? text
  let (value, rest) ← readValue? words.length words
  if rest.isEmpty then some value else none

/-- The value of a text. What `Json.render` writes of a value, it reads as that value. -/
def ofText? (text : String) : Option Json := ofChars? text.toList

/-! ## Taking values apart -/

/-- The number, if the value is a natural number below a limit, such as the size of the member it is to fill. -/
def below? (limit : Nat) : Json → Option Nat
  | .natural value => if value < limit then some value else none
  | _ => none

/-- The text, if the value is a string that denotes one. -/
def text? : Json → Option String
  | .string content => content
  | _ => none

/-- The members of a record whose keys are listed. An object may have other members besides, which are
passed over, but none of its keys may denote no text. An array is a record too, if it has exactly the
values of the keys, in their order. -/
def members? (keys : List String) : Json → Option (List (String × Json))
  | .object members => members.mapM fun (key, value) => key.map (·, value)
  | .array items => if items.length = keys.length then some (keys.zip items) else none
  | _ => none

/-- The value of a key that stands exactly once among `members?`. -/
def member? (members : List (String × Json)) (key : String) : Option Json :=
  match members.filter (·.1 == key) with
  | [(_, value)] => some value
  | _ => none

/-- The value of a key that stands once, or null if it does not stand at all. A key that stands twice has none. -/
def optionalMember? (members : List (String × Json)) (key : String) : Option Json :=
  match members.filter (·.1 == key) with
  | [] => some .null
  | [(_, value)] => some value
  | _ => none

end FlowCollector.Json
