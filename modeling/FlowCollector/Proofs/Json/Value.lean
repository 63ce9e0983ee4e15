import FlowCollector.Json.Value
import FlowCollector.Proofs.Json.Token

/-!
# Values written and read back

What is written for a value is read back as that value, whatever the value, as long as it holds no literal of a number
that was never given a meaning. The steps are those of reading: the text is cut into the words of the value, and the
words are put together again. Both follow the value, items and members one behind the other.

A written value is also one line. Nothing in it is a control character, and a line feed is one.
-/

set_option autoImplicit false

namespace FlowCollector.Json

/-! ## Values -/

/-- A value that holds no literal of a number as it was written, `Json.number`. No record and no report that is written
as text holds one. -/
inductive Plain : Json → Prop
  | null : Plain .null
  | bool (value : Bool) : Plain (.bool value)
  | natural (value : Nat) : Plain (.natural value)
  | string (content : Option String) : Plain (.string content)
  | array {items : List Json} (plain : ∀ item ∈ items, Plain item) : Plain (.array items)
  | object {members : List (Option String × Json)} (plain : ∀ member ∈ members, Plain member.2) :
    Plain (.object members)

mutual

/-- The words of a value, into which its text is `Cut`. -/
def words : Json → List Token
  | .array items => .openArray :: itemsWords items
  | .object members => .openObject :: membersWords members
  | value => [.scalar value]

/-- The words of the items of an array, and the bracket behind them. Only `moreItemsWords` have commas in front. -/
def itemsWords : List Json → List Token
  | [] => [.closeArray]
  | item :: others => item.words ++ moreItemsWords others

/-- The words of items behind another one, each with its comma, and the bracket. -/
def moreItemsWords : List Json → List Token
  | [] => [.closeArray]
  | item :: others => .comma :: (item.words ++ moreItemsWords others)

/-- The words of the members of an object, and the bracket behind them. Only `moreMembersWords` have commas in
front. -/
def membersWords : List (Option String × Json) → List Token
  | [] => [.closeObject]
  | (key, value) :: others => .scalar (.string key) :: .colon :: (value.words ++ moreMembersWords others)

/-- The words of members behind another one, each with its comma, and the bracket. -/
def moreMembersWords : List (Option String × Json) → List Token
  | [] => [.closeObject]
  | (key, value) :: others =>
    .comma :: .scalar (.string key) :: .colon :: (value.words ++ moreMembersWords others)

end

theorem ends_moreItemsChars (items : List Json) (rest : List Char) : Ends (moreItemsChars items ++ rest) := by
  cases items with
  | nil => exact .cons (by decide) _
  | cons item others => exact .cons (by decide) _

theorem ends_moreMembersChars (members : List (Option String × Json)) (rest : List Char) :
    Ends (moreMembersChars members ++ rest) := by
  cases members with
  | nil => exact .cons (by decide) _
  | cons member others => exact .cons (by decide) _

theorem Cut.close {c : Char} {token : Token} (solid : isBlank c = false)
    (read : ∀ rest, Token.read? (c :: rest) = some (token, rest)) : Cut [c] [token] :=
  Cut.of_read solid fun rest _ => read rest

theorem cut_moreItems {items : List Json} (cut : ∀ item ∈ items, Cut item.chars item.words) :
    Cut (moreItemsChars items) (moreItemsWords items) := by
  induction items with
  | nil => exact .close (by decide) (fun _ => rfl)
  | cons item others ih =>
    have first := cut item List.mem_cons_self
    have next := ih fun other mem => cut other (List.mem_cons_of_mem item mem)
    exact .cons (by decide) (fun _ => rfl) (first.append next (ends_moreItemsChars others))

theorem cut_moreMembers {members : List (Option String × Json)}
    (cut : ∀ member ∈ members, Cut member.2.chars member.2.words) :
    Cut (moreMembersChars members) (moreMembersWords members) := by
  induction members with
  | nil => exact .close (by decide) (fun _ => rfl)
  | cons member others ih =>
    have first := cut member List.mem_cons_self
    have next := ih fun other mem => cut other (List.mem_cons_of_mem member mem)
    exact .cons (by decide) (fun _ => rfl) (.member member.1 (first.append next (ends_moreMembersChars others)))

theorem Plain.cut {value : Json} (plain : value.Plain) : Cut value.chars value.words := by
  induction plain with
  | null => exact .of_read (by decide) fun _ _ => rfl
  | bool value => cases value <;> exact .of_read (by decide) fun _ _ => rfl
  | natural value => exact cut_natural value
  | string content => exact cut_quoteString content
  | @array items _ ih =>
    cases items with
    | nil => exact .cons (by decide) (fun _ => rfl) (.close (by decide) (fun _ => rfl))
    | cons item others =>
      have first := ih item List.mem_cons_self
      have next := cut_moreItems fun other mem => ih other (List.mem_cons_of_mem item mem)
      exact .cons (by decide) (fun _ => rfl) (first.append next (ends_moreItemsChars others))
  | @object members _ ih =>
    cases members with
    | nil => exact .cons (by decide) (fun _ => rfl) (.close (by decide) (fun _ => rfl))
    | cons member others =>
      have first := ih member List.mem_cons_self
      have next := cut_moreMembers fun other mem => ih other (List.mem_cons_of_mem member mem)
      exact .cons (by decide) (fun _ => rfl) (.member member.1 (first.append next (ends_moreMembersChars others)))

/-! ## Values of words -/

theorem words_ne_closeArray (value : Json) (more rest : List Token) : value.words ++ more ≠ .closeArray :: rest := by
  cases value <;> simp [words]

/-- A value is read off the front of its `words`. Each step of fuel uses up a word. -/
def Read (value : Json) : Prop :=
  ∀ fuel more, value.words.length ≤ fuel → readValue? fuel (value.words ++ more) = some (value, more)

theorem readItems?_words {item : Json} {others : List Json} (read : ∀ one ∈ item :: others, one.Read) (fuel : Nat)
    (more : List Token) (enough : (item.words ++ moreItemsWords others).length ≤ fuel) :
    readItems? fuel (item.words ++ (moreItemsWords others ++ more)) = some (item :: others, more) := by
  -- Each item has a word of its own, so what is enough for all is enough for those behind the first.
  induction others generalizing item fuel with
  | nil =>
    simp only [moreItemsWords, List.length_append, List.length_singleton] at enough
    obtain ⟨fuel, rfl⟩ : ∃ less, fuel = less + 1 := ⟨fuel - 1, by omega⟩
    rw [readItems?, read item List.mem_cons_self fuel _ (by omega)]
    rfl
  | cons second others ih =>
    simp only [moreItemsWords, List.length_append, List.length_cons] at enough
    obtain ⟨fuel, rfl⟩ : ∃ less, fuel = less + 1 := ⟨fuel - 1, by omega⟩
    have rest := ih (fun one mem => read one (List.mem_cons_of_mem item mem)) fuel (by
      rw [List.length_append]
      omega)
    rw [readItems?, read item List.mem_cons_self fuel _ (by omega)]
    simp only [moreItemsWords, List.cons_append, List.append_assoc, Option.bind_eq_bind, Option.bind_some, rest]
    rfl

theorem readMembers?_words {key : Option String} {value : Json} {others : List (Option String × Json)}
    (read : ∀ one ∈ (key, value) :: others, one.2.Read) (fuel : Nat) (more : List Token)
    (enough : (membersWords ((key, value) :: others)).length ≤ fuel + 1) :
    readMembers? fuel (membersWords ((key, value) :: others) ++ more) = some ((key, value) :: others, more) := by
  induction others generalizing key value fuel with
  | nil =>
    simp only [membersWords, moreMembersWords, List.length_append, List.length_cons, List.length_nil] at enough
    obtain ⟨fuel, rfl⟩ : ∃ less, fuel = less + 1 := ⟨fuel - 1, by omega⟩
    have first : value.Read := read (key, value) List.mem_cons_self
    simp only [membersWords, moreMembersWords, List.cons_append, List.append_assoc, readMembers?]
    rw [first fuel _ (by omega)]
    rfl
  | cons second others ih =>
    simp only [membersWords, moreMembersWords, List.length_append, List.length_cons] at enough
    obtain ⟨fuel, rfl⟩ : ∃ less, fuel = less + 1 := ⟨fuel - 1, by omega⟩
    have rest := ih (fun one mem => read one (List.mem_cons_of_mem _ mem)) fuel (by
      simp only [membersWords, List.length_append, List.length_cons]
      omega)
    have first : value.Read := read (key, value) List.mem_cons_self
    simp only [membersWords, List.cons_append, List.append_assoc] at rest
    simp only [membersWords, moreMembersWords, List.cons_append, List.append_assoc, readMembers?]
    rw [first fuel _ (by omega)]
    simp only [Option.bind_eq_bind, Option.bind_some, rest]
    rfl

theorem readArray?_words {items : List Json} (read : ∀ item ∈ items, item.Read) : (Json.array items).Read := by
  intro fuel more enough
  simp only [words, List.length_cons] at enough
  obtain ⟨fuel, rfl⟩ : ∃ less, fuel = less + 1 := ⟨fuel - 1, by omega⟩
  cases items with
  | nil => rfl
  | cons item others =>
    have inner := readItems?_words read fuel more (by
      simp only [itemsWords] at enough
      omega)
    simp only [words, itemsWords, List.cons_append, List.append_assoc]
    rw [readValue?, inner]
    · rfl
    · intro rest closed
      exact words_ne_closeArray item _ rest closed

theorem readObject?_words {members : List (Option String × Json)} (read : ∀ member ∈ members, member.2.Read) :
    (Json.object members).Read := by
  intro fuel more enough
  simp only [words, List.length_cons] at enough
  obtain ⟨fuel, rfl⟩ : ∃ less, fuel = less + 1 := ⟨fuel - 1, by omega⟩
  cases members with
  | nil => rfl
  | cons member others =>
    obtain ⟨key, value⟩ := member
    have inner := readMembers?_words read fuel more (by omega)
    simp only [words, membersWords, List.cons_append] at inner ⊢
    rw [readValue?, inner]
    · rfl
    · intro rest closed
      cases closed

theorem Plain.read {value : Json} (plain : value.Plain) : value.Read := by
  have scalar : ∀ value : Json, value.words = [.scalar value] → value.Read := by
    intro value single fuel more enough
    rw [single] at enough ⊢
    obtain ⟨fuel, rfl⟩ : ∃ less, fuel = less + 1 := ⟨fuel - 1, (Nat.sub_add_cancel enough).symm⟩
    rfl
  induction plain with
  | null => exact scalar _ rfl
  | bool value => exact scalar _ rfl
  | natural value => exact scalar _ rfl
  | string content => exact scalar _ rfl
  | array _ ih => exact readArray?_words ih
  | object _ ih => exact readObject?_words ih

/-- What is written for a `Plain` value is read back as that value, with any blanks behind it. -/
theorem ofChars?_chars {value : Json} (plain : value.Plain) {rest : List Char}
    (blank : ∀ c ∈ rest, isBlank c = true) : ofChars? (value.chars ++ rest) = some value := by
  have ends : Ends rest := by
    intro c first
    exact .inr (.inr (.inr (blank c (List.mem_of_mem_head? first))))
  have read := plain.read value.words.length [] (Nat.le_refl _)
  rw [List.append_nil] at read
  unfold ofChars?
  rw [plain.cut rest ends, tokens?_blanks blank]
  simp [read]

/-! ## One line -/

/-- Text without control characters: it is one line, and can be a part of one. All that `chars` writes is such. -/
def Printed (text : List Char) : Prop := ∀ c ∈ text, 32 ≤ c.toNat

theorem Printed.append {front back : List Char} (first : Printed front) (next : Printed back) :
    Printed (front ++ back) := by
  intro c mem
  exact (List.mem_append.1 mem).elim (first c) (next c)

theorem Printed.cons {c : Char} {text : List Char} (first : 32 ≤ c.toNat) (next : Printed text) :
    Printed (c :: text) := by
  intro d mem
  rcases List.mem_cons.1 mem with rfl | mem
  · exact first
  · exact next d mem

theorem Printed.of_all {text : List Char} (h : text.all (fun c => 32 ≤ c.toNat) = true) : Printed text := by
  intro c mem
  exact of_decide_eq_true (List.all_eq_true.1 h c mem)

theorem printed_escape (c : Char) : Printed (escape c) := by
  unfold escape
  split
  · exact .of_all rfl
  split
  · exact .of_all rfl
  split
  · exact .of_all rfl
  split
  · exact .of_all rfl
  split
  · exact .of_all rfl
  split
  · exact .of_all rfl
  split
  · exact .of_all rfl
  split
  case isTrue control =>
    rw [List.append_assoc]
    obtain ⟨-, -, digits⟩ := read?_control c.toNat control
    exact Printed.append (.of_all rfl) (.of_all digits)
  case isFalse printed =>
    intro d mem
    obtain rfl := List.mem_singleton.1 mem
    exact Nat.not_lt.1 printed

theorem printed_quoteString (content : Option String) : Printed (quoteString content) := by
  cases content with
  | none => exact .of_all rfl
  | some content =>
    apply Printed.cons (by decide)
    apply Printed.append
    · intro c mem
      obtain ⟨d, -, inside⟩ := List.mem_flatMap.1 mem
      exact printed_escape d c inside
    · exact .cons (by decide) nofun

theorem printed_write (value : Nat) : Printed (Numeral.write 10 value) := by
  intro c mem
  have digit := Numeral.isDigit_of_mem_write (by decide) (by decide) mem
  by_contra control
  -- A character below the first that is printed is below every digit.
  have above : ∀ d : Char, 32 ≤ d.toNat → ¬ d ≤ c := fun d printed below =>
    control (Nat.le_trans printed (UInt32.le_iff_toNat_le.1 below))
  have none : Numeral.digitValue? c = none := by
    simp only [Numeral.digitValue?, above '0' (by decide), above 'a' (by decide), above 'A' (by decide), false_and,
      if_false]
  rw [Numeral.isDigit, Numeral.digit?, none] at digit
  cases digit

theorem printed_moreItems {items : List Json} (printed : ∀ item ∈ items, Printed item.chars) :
    Printed (moreItemsChars items) := by
  induction items with
  | nil => exact .cons (by decide) nofun
  | cons item others ih =>
    have next := ih fun other mem => printed other (List.mem_cons_of_mem item mem)
    exact .cons (by decide) ((printed item List.mem_cons_self).append next)

theorem printed_moreMembers {members : List (Option String × Json)}
    (printed : ∀ member ∈ members, Printed member.2.chars) : Printed (moreMembersChars members) := by
  induction members with
  | nil => exact .cons (by decide) nofun
  | cons member others ih =>
    have next := ih fun other mem => printed other (List.mem_cons_of_mem member mem)
    have value := (printed member List.mem_cons_self).append next
    exact .cons (by decide) ((printed_quoteString member.1).append (.cons (by decide) value))

theorem Plain.printed {value : Json} (plain : value.Plain) : Printed value.chars := by
  induction plain with
  | null => exact .of_all rfl
  | bool value => cases value <;> exact .of_all rfl
  | natural value => exact printed_write value
  | string content => exact printed_quoteString content
  | @array items _ ih =>
    cases items with
    | nil => exact .of_all rfl
    | cons item others =>
      have next := printed_moreItems fun other mem => ih other (List.mem_cons_of_mem item mem)
      exact .cons (by decide) ((ih item List.mem_cons_self).append next)
  | @object members _ ih =>
    cases members with
    | nil => exact .of_all rfl
    | cons member others =>
      have next := printed_moreMembers fun other mem => ih other (List.mem_cons_of_mem member mem)
      have value := (ih member List.mem_cons_self).append next
      exact .cons (by decide) ((printed_quoteString member.1).append (.cons (by decide) value))

end FlowCollector.Json
