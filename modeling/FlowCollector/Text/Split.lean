/-!
# Cutting text

`Text.pieces` cuts a text at every occurrence of a separator, and `Text.cutAtPair` at the first place
where a separator stands twice. Nothing is trimmed: `pieces` of n separators are n + 1 texts, empty
ones included, so that joining them with the separator gives the text back.
-/

set_option autoImplicit false

namespace FlowCollector.Text

/-- The texts between the separators, empty ones as well. -/
def pieces (separator : Char) : List Char → List (List Char)
  | [] => [[]]
  | c :: rest =>
    if c = separator then [] :: pieces separator rest
    else
      match pieces separator rest with
      | [] => [[c]]
      | first :: others => (c :: first) :: others

/-- The texts before and behind the first place where the separator stands twice. What is behind may start with a
third. -/
def cutAtPair (separator : Char) : List Char → Option (List Char × List Char)
  | c :: d :: rest =>
    if c = separator ∧ d = separator then some ([], rest)
    else (cutAtPair separator (d :: rest)).map fun (front, back) => (c :: front, back)
  | _ => none

/-- The texts before and behind the first occurrence of the separator. Further ones belong to the second text. -/
def cutAt (separator : Char) : List Char → Option (List Char × List Char)
  | [] => none
  | c :: rest =>
    if c = separator then some ([], rest)
    else (cutAt separator rest).map fun (front, back) => (c :: front, back)

/-- Texts with a separator between each two, the other direction of `pieces`. -/
def join (separator : Char) : List (List Char) → List Char
  | [] => []
  | [piece] => piece
  | piece :: others => piece ++ separator :: join separator others

/-- Cutting by `pieces` and joining again loses nothing. -/
theorem join_pieces (separator : Char) (text : List Char) :
    join separator (pieces separator text) = text := by
  induction text with
  | nil => rfl
  | cons c rest ih =>
    have some_piece : pieces separator rest ≠ [] := by
      cases rest with
      | nil => simp [pieces]
      | cons d rest =>
        simp only [pieces]
        split
        · simp
        · split <;> simp
    by_cases at_separator : c = separator
    · subst at_separator
      simp only [pieces, ↓reduceIte]
      cases h : pieces c rest with
      | nil => exact absurd h some_piece
      | cons first others => rw [h] at ih; simp [join, ih]
    · simp only [pieces, at_separator, ↓reduceIte]
      cases h : pieces separator rest with
      | nil => exact absurd h some_piece
      | cons first others =>
        rw [h] at ih
        cases others with
        | nil => simpa [join] using ih
        | cons second others => simpa [join] using ih

end FlowCollector.Text
