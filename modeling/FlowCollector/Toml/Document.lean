import FlowCollector.Toml.Quoted
import FlowCollector.Toml.Scalar
import FlowCollector.Toml.Table

/-!
# Reading TOML text

A document is a run of statements, one a line: a key with its value, or a header under which the
following keys stand. `statements?` cuts the text into statements and `ofStatements?` makes tables of
them; the first knows nothing of tables that are there already and the second nothing of text.

Brackets may be nested eighty deep and no deeper, which is also what the recursion on values goes by. The
loops go by the length of the text that is left.
-/

set_option autoImplicit false

namespace FlowCollector.Toml

def skipBlanks (text : List Char) : List Char := text.dropWhile isBlank

/-- What follows blanks, line breaks and comments. There is none if a comment holds a character that `isAllowed`
refuses. -/
def skipSpace? : (inComment : Bool) → List Char → Option (List Char)
  | _, [] => some []
  | _, '\n' :: rest => skipSpace? false rest
  | _, '\r' :: '\n' :: rest => skipSpace? false rest
  | true, c :: rest => if isAllowed c then skipSpace? true rest else none
  | false, '#' :: rest => skipSpace? true rest
  | false, c :: rest => if isBlank c then skipSpace? false rest else some (c :: rest)

/-- What follows the end of a line, in front of which only blanks and a comment may stand. -/
def endLine? : (inComment : Bool) → List Char → Option (List Char)
  | _, [] => some []
  | _, '\n' :: rest => some rest
  | _, '\r' :: '\n' :: rest => some rest
  | true, c :: rest => if isAllowed c then endLine? true rest else none
  | false, '#' :: rest => endLine? true rest
  | false, c :: rest => if isBlank c then endLine? false rest else none

/-! ## Keys -/

/-- True of the characters of a key without quotes: letters and digits, the underscore and the hyphen. -/
def isKeyChar (c : Char) : Bool := c.isAlphanum || c == '_' || c == '-'

/-- Reads one key: a string on one line (`readQuoted?`), or letters and digits without quotes. -/
def readKey? : List Char → Option (String × List Char)
  | '"' :: rest => readQuoted? false '"' rest
  | '\'' :: rest => readQuoted? false '\'' rest
  | text =>
    let key := text.takeWhile isKeyChar
    if key.isEmpty then none else some (.ofList key, text.drop key.length)

/-- Reads a path of keys with dots between them, each by `readKey?`, and the blanks behind it. -/
def readPath? (text : List Char) : Option (KeyPath × List Char) :=
  match readKey? text with
  | none => none
  | some (key, rest) =>
    match skipBlanks rest with
    | '.' :: rest =>
      let next := skipBlanks rest
      if next.length < text.length then
        (readPath? next).map fun (path, rest) => (⟨key :: path.parents, path.key⟩, rest)
      else none
    | rest => some (⟨[], key⟩, rest)
termination_by text.length

/-! ## Values -/

/-- Reads what stands between brackets, behind the opening one: items with commas between them. A comma may
follow the last, and the items may stand on lines of their own. -/
def readItems? {α : Type} (item : List Char → Option (α × List Char)) (close : Char)
    (text : List Char) : Option (List α × List Char) :=
  match skipSpace? false text with
  | none => none
  | some start =>
    if start.head? = some close then some ([], start.tail)
    else
      match item start with
      | none => none
      | some (first, rest) =>
        match skipSpace? false rest with
        | some (',' :: rest) =>
          if rest.length < text.length then
            (readItems? item close rest).map fun (others, rest) => (first :: others, rest)
          else none
        | some (c :: rest) => if c = close then some ([first], rest) else none
        | _ => none
termination_by text.length

/-- Reads a path by `readPath?`, an equals sign and a value. -/
def readMember? (value : List Char → Option (Toml × List Char)) (text : List Char) :
    Option ((KeyPath × Toml) × List Char) := do
  let (path, rest) ← readPath? text
  match rest with
  | '=' :: rest => do
    let (value, rest) ← value (skipBlanks rest)
    return ((path, value), rest)
  | _ => none

/-- True of the characters that end a value without quotes or brackets. -/
def endsScalar (c : Char) : Bool := c ∈ [' ', '\t', '\r', '\n', ',', ']', '\x7d', '#']

/-- Reads a value without quotes or brackets by `scalar?`. One blank may stand in it, between a date and a time. -/
def readScalar? (text : List Char) : Option (Toml × List Char) :=
  let front := text.takeWhile (!endsScalar ·)
  let rest := text.drop front.length
  match afterDate? front, rest with
  | some [], ' ' :: c :: more =>
    if Numeral.isDigit 10 c then
      let back := (c :: more).takeWhile (!endsScalar ·)
      (scalar? (front ++ ' ' :: back)).map fun value => (value, (c :: more).drop back.length)
    else some (.datetime, rest)
  | _, _ => (scalar? front).map fun value => (value, rest)

/-- Reads a value with at most so many brackets around anything in it. It starts with quotes (`readString?`), with a
bracket, or is a `readScalar?`. -/
def readValue? : (depth : Nat) → List Char → Option (Toml × List Char)
  | depth, text =>
    match text with
    | '"' :: _ => (readString? text).map fun (content, rest) => (.string content, rest)
    | '\'' :: _ => (readString? text).map fun (content, rest) => (.string content, rest)
    | '[' :: rest =>
      match depth with
      | 0 => none
      | depth + 1 =>
        (readItems? (readValue? depth) ']' rest).map fun (items, rest) => (.array items, rest)
    | '\x7b' :: rest =>
      match depth with
      | 0 => none
      | depth + 1 => do
        let (entries, rest) ← readItems? (readMember? (readValue? depth)) '\x7d' rest
        return (.table .inline (← addMembers? [] entries), rest)
    | _ => readScalar? text

def depthLimit : Nat := 80

/-! ## Statements -/

/-- A line of a document: a key with its value, or a header of either kind. -/
inductive Statement where
  | entry (path : KeyPath) (value : Toml)
  | table (path : KeyPath)
  | tableItem (path : KeyPath)
  deriving Repr

/-- Reads one statement, up to the end of its line. -/
def readStatement? : List Char → Option (Statement × List Char)
  | '[' :: '[' :: rest => do
    let (path, rest) ← readPath? (skipBlanks rest)
    match rest with
    | ']' :: ']' :: rest => return (.tableItem path, rest)
    | _ => none
  | '[' :: rest => do
    let (path, rest) ← readPath? (skipBlanks rest)
    match rest with
    | ']' :: rest => return (.table path, rest)
    | _ => none
  | text => do
    let ((path, value), rest) ← readMember? (readValue? depthLimit) text
    return (.entry path value, rest)

/-- The statements of a text, one `readStatement?` after another, with blanks and comments between them passed
over. -/
def statements? (text : List Char) : Option (List Statement) :=
  match skipSpace? false text with
  | none => none
  | some [] => some []
  | some start =>
    match readStatement? start with
    | none => none
    | some (statement, rest) =>
      match endLine? false rest with
      | none => none
      | some rest =>
        if rest.length < text.length then (statements? rest).map (statement :: ·) else none
termination_by text.length

/-! ## Documents -/

/-- The entries in front of the first header, and the statements from there on. -/
def spanEntries : List Statement → List (KeyPath × Toml) × List Statement
  | .entry path value :: rest =>
    let (entries, rest) := spanEntries rest
    ((path, value) :: entries, rest)
  | rest => ([], rest)

theorem length_spanEntries_le (statements : List Statement) :
    (spanEntries statements).2.length ≤ statements.length := by
  induction statements with
  | nil => simp [spanEntries]
  | cons statement rest ih =>
    cases statement with
    | entry path value =>
      simp only [spanEntries, List.length_cons]
      omega
    | _ => exact Nat.le_refl _

/-- Adds what headers and the entries below them say, section by section. -/
def addSections? (members : Members) : List Statement → Option Members
  | [] => some members
  | .entry path value :: rest => do addSections? (← addMember? members path value) rest
  | .table path :: rest => do
    addSections? (← addTable? members path (spanEntries rest).1) (spanEntries rest).2
  | .tableItem path :: rest => do
    addSections? (← addTableItem? members path (spanEntries rest).1) (spanEntries rest).2
termination_by statements => statements.length
decreasing_by
  · simp
  · have := length_spanEntries_le rest; simp; omega
  · have := length_spanEntries_le rest; simp; omega

/-- The members of the document that statements make, by `addSections?` from none. -/
def ofStatements? (statements : List Statement) : Option Members := addSections? [] statements

/-- The members of the document that a text spells, if it spells any: `statements?`, then `ofStatements?`. A byte
order mark may stand in front. -/
def document? (text : String) : Option Members := do
  let chars := match text.toList with
    | '\ufeff' :: rest => rest
    | chars => chars
  ofStatements? (← statements? chars)

end FlowCollector.Toml
