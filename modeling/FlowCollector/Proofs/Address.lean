import FlowCollector.Address.Text
import FlowCollector.Proofs.Address.Bytes
import FlowCollector.Proofs.Text
import Mathlib.Data.List.Basic
import Mathlib.Data.List.TakeWhile

/-!
# Addresses written and read back

The text of an address is read back as that address, so no two addresses have one text. The elided run of
zeros is the hard part: its place is forgotten by the text, and only its length can be told, from the groups that
are not elided.
-/

set_option autoImplicit false

namespace FlowCollector

/-! ## Four bytes -/

namespace Ipv4

theorem byteOfText?_write (byte : UInt8) : byteOfText? (Numeral.write 10 byte.toNat) = some byte := by
  have few : (Numeral.write 10 byte.toNat).length ≤ 3 := by
    have := byte.toNat_lt
    exact (Nat.length_toDigits_le_iff (by decide) (by decide)).2 (by omega)
  have shape : (Numeral.write 10 byte.toNat).length = 1
      ∨ (Numeral.write 10 byte.toNat).head? ≠ some '0' := by
    rcases Nat.eq_zero_or_pos byte.toNat with zero | positive
    · rw [zero]
      exact .inl rfl
    · exact .inr (Numeral.head?_write (by decide) (by decide) positive)
  have inRange : byte.toNat < 256 := byte.toNat_lt
  rw [byteOfText?, if_pos ⟨few, shape⟩, Numeral.read?_write (by decide) (by decide)]
  simp [inRange]

theorem isDigit_of_byteOfText? {text : List Char} {byte : UInt8} (h : byteOfText? text = some byte) :
    ∀ c ∈ text, Numeral.isDigit 10 c = true := by
  unfold byteOfText? at h
  split at h
  · obtain ⟨number, spelt, -⟩ := Option.map_eq_some_iff.1 h
    exact Numeral.isDigit_of_read? (Option.filter_eq_some_iff.1 spelt).1
  · cases h

theorem not_mem_write {c : Char} (other : Numeral.isDigit 10 c = false) (number : Nat) :
    c ∉ Numeral.write 10 number := by
  intro there
  rw [Numeral.isDigit_of_mem_write (by decide) (by decide) there] at other
  cases other

theorem ofText?_text (address : Ipv4) : ofText? address.text = some address := by
  obtain ⟨a, b, c, d⟩ := address
  have cut : Text.pieces '.' (text ⟨a, b, c, d⟩)
      = [a, b, c, d].map fun byte => Numeral.write 10 byte.toNat := by
    refine Text.pieces_join (by simp [toBytes]) ?_
    intro piece there
    obtain ⟨byte, -, rfl⟩ := List.mem_map.1 there
    exact not_mem_write (by decide) byte.toNat
  simp [ofText?, cut, byteOfText?_write, ofBytes?]

/-- A text that `ofText?` reads as four bytes consists of digits and dots. An IPv6 address with a colon in it is
therefore never taken for one. -/
theorem isDigit_of_ofText? {text : List Char} {address : Ipv4} (h : ofText? text = some address)
    {c : Char} (there : c ∈ text) : c = '.' ∨ Numeral.isDigit 10 c = true := by
  unfold ofText? at h
  obtain ⟨bytes, read, -⟩ := Option.bind_eq_some_iff.1 h
  rw [← Text.join_pieces '.' text] at there
  rcases Text.mem_join there with dot | ⟨piece, isPiece, inPiece⟩
  · exact .inl dot
  · obtain ⟨byte, spelt⟩ : ∃ byte, byteOfText? piece = some byte := by
      clear h there
      generalize Text.pieces '.' text = texts at read isPiece
      induction texts generalizing bytes with
      | nil => cases isPiece
      | cons first others ih =>
        rw [List.mapM_cons] at read
        obtain ⟨byte, spelt, rest⟩ := Option.bind_eq_some_iff.1 read
        obtain ⟨bytes, read, -⟩ := Option.bind_eq_some_iff.1 rest
        rcases List.mem_cons.1 isPiece with rfl | later
        · exact ⟨byte, spelt⟩
        · exact ih bytes read later
    exact .inr (isDigit_of_byteOfText? spelt c inPiece)

end Ipv4

/-! ## Eight groups -/

namespace Ipv6

theorem groupOfText?_write (group : UInt16) :
    groupOfText? (Numeral.write 16 group.toNat) = some group := by
  have few : (Numeral.write 16 group.toNat).length ≤ 4 := by
    have := group.toNat_lt
    exact (Nat.length_toDigits_le_iff (by decide) (by decide)).2 (by omega)
  rw [groupOfText?, if_pos few, Numeral.read?_write (by decide) (by decide)]
  simp

theorem colon_not_mem_write (number : Nat) : ':' ∉ Numeral.write 16 number := by
  intro there
  have digit := Numeral.isDigit_of_mem_write (by decide) (by decide) there
  revert digit
  decide

theorem colon_not_mem_of_mem_map {groups : List UInt16} {piece : List Char}
    (h : piece ∈ groups.map fun group => Numeral.write 16 group.toNat) : ':' ∉ piece := by
  obtain ⟨group, -, rfl⟩ := List.mem_map.1 h
  exact colon_not_mem_write group.toNat

theorem ne_nil_of_mem_map {groups : List UInt16} {piece : List Char}
    (h : piece ∈ groups.map fun group => Numeral.write 16 group.toNat) : piece ≠ [] := by
  obtain ⟨group, -, rfl⟩ := List.mem_map.1 h
  exact Numeral.write_ne_nil 16 group.toNat

theorem groupsOfPieces?_write (dotted : Bool) (groups : List UInt16) :
    groupsOfPieces? dotted (groups.map fun group => Numeral.write 16 group.toNat) = some groups := by
  induction groups with
  | nil => rfl
  | cons first others ih =>
    cases others with
    | nil => simp [groupsOfPieces?, groupOfText?_write]
    | cons second others =>
      rw [List.map_cons] at ih
      simp [groupsOfPieces?, groupOfText?_write, ih]

theorem textOfGroups_ne_nil {groups : List UInt16} (some_group : groups ≠ []) :
    textOfGroups groups ≠ [] :=
  Text.join_ne_nil (by simpa using some_group) fun _ => ne_nil_of_mem_map

theorem groupsOfText?_textOfGroups (dotted : Bool) (groups : List UInt16) :
    groupsOfText? dotted (textOfGroups groups) = some groups := by
  by_cases none : groups = []
  · subst none
    rfl
  · have filled : (textOfGroups groups).isEmpty = false := by
      simpa using textOfGroups_ne_nil none
    have cut : Text.pieces ':' (textOfGroups groups)
        = groups.map fun group => Numeral.write 16 group.toNat :=
      Text.pieces_join (by simpa using none) fun _ => colon_not_mem_of_mem_map
    simp only [groupsOfText?, filled, Bool.false_eq_true, if_false, cut, groupsOfPieces?_write]

theorem textOfGroups_cons_cons (first second : UInt16) (others : List UInt16) :
    textOfGroups (first :: second :: others)
      = Numeral.write 16 first.toNat ++ ':' :: textOfGroups (second :: others) := rfl

theorem exists_textOfGroups_eq_cons {groups : List UInt16} (some_group : groups ≠ []) :
    ∃ c rest, textOfGroups groups = c :: rest ∧ c ≠ ':' := by
  obtain ⟨first, others, rfl⟩ := List.exists_cons_of_ne_nil some_group
  obtain ⟨c, rest, written⟩ := List.exists_cons_of_ne_nil (Numeral.write_ne_nil 16 first.toNat)
  have noColon := colon_not_mem_write first.toNat
  rw [written] at noColon
  refine ⟨c, ?_⟩
  cases others with
  | nil => exact ⟨rest, written, fun same => noColon (same ▸ List.mem_cons_self)⟩
  | cons second others =>
    rw [textOfGroups_cons_cons, written]
    exact ⟨_, rfl, fun same => noColon (same ▸ List.mem_cons_self)⟩

theorem cutAtPair_textOfGroups (groups : List UInt16) :
    Text.cutAtPair ':' (textOfGroups groups) = none := by
  induction groups with
  | nil => rfl
  | cons first others ih =>
    cases others with
    | nil => exact Text.cutAtPair_of_free (colon_not_mem_write first.toNat)
    | cons second others =>
      obtain ⟨c, rest, starts, other⟩ := exists_textOfGroups_eq_cons (List.cons_ne_nil second others)
      rw [starts] at ih
      rw [textOfGroups_cons_cons, starts,
        Text.cutAtPair_append (colon_not_mem_write first.toNat) other, ih, Option.map_none]

theorem cutAtPair_textOfGroups_pair (groups : List UInt16) (back : List Char) :
    Text.cutAtPair ':' (textOfGroups groups ++ ':' :: ':' :: back)
      = some (textOfGroups groups, back) := by
  induction groups with
  | nil => rfl
  | cons first others ih =>
    cases others with
    | nil => exact Text.cutAtPair_pair (colon_not_mem_write first.toNat) back
    | cons second others =>
      obtain ⟨c, rest, starts, other⟩ := exists_textOfGroups_eq_cons (List.cons_ne_nil second others)
      rw [starts, List.cons_append] at ih
      rw [textOfGroups_cons_cons, starts, List.append_assoc, List.cons_append, List.cons_append,
        Text.cutAtPair_append (colon_not_mem_write first.toNat) other, ih, Option.map_some]

/-! ### The elided run -/

theorem takeWhile_eq_replicate (groups : List UInt16) :
    groups.takeWhile (· == 0) = List.replicate (groups.takeWhile (· == 0)).length 0 := by
  rw [List.eq_replicate_iff]
  refine ⟨rfl, fun group there => ?_⟩
  simpa using List.mem_takeWhile_imp there

/-- The run that `longestZeroRun` finds is there, and is all zeros. Counting may have started at any group, which is
what the recursion needs. -/
theorem longestZeroRun_spec (start : Nat) (groups : List UInt16) :
    ∃ front back, groups = front ++ List.replicate (longestZeroRun start groups).2 0 ++ back
      ∧ (longestZeroRun start groups).1 = start + front.length := by
  induction groups generalizing start with
  | nil => exact ⟨[], [], rfl, rfl⟩
  | cons group rest ih =>
    obtain ⟨front, back, later, place⟩ := ih (start + 1)
    simp only [longestZeroRun]
    split
    case isTrue here =>
      refine ⟨[], (group :: rest).dropWhile (· == 0), ?_, rfl⟩
      rw [List.nil_append, ← takeWhile_eq_replicate, List.takeWhile_append_dropWhile]
    case isFalse _ =>
      refine ⟨group :: front, back, ?_, ?_⟩
      · rw [List.cons_append, List.cons_append, ← later]
      · rw [place, List.length_cons]
        omega

theorem ofGroups?_groups (address : Ipv6) : ofGroups? address.groups = some address :=
  dif_pos address.length_groups

/-- Of an address that `text` writes with an elided run: what stands on its two sides is read back, and the number of
zeros between them is what is missing of eight. -/
theorem ofText?_elided {address : Ipv6} {front back : List UInt16} {zeros : Nat} (some_zero : 0 < zeros)
    (cut : address.groups = front ++ List.replicate zeros 0 ++ back) :
    ofText? (textOfGroups front ++ ':' :: ':' :: textOfGroups back) = some address := by
  have whole := address.length_groups
  rw [cut] at whole
  simp only [List.length_append, List.length_replicate] at whole
  have missing : 8 - front.length - back.length = zeros := by omega
  simp only [ofText?, cutAtPair_textOfGroups_pair, groupsOfText?_textOfGroups, Option.bind_eq_bind,
    Option.bind_some]
  rw [if_pos (by omega), missing, ← cut, ofGroups?_groups]

/-- Of an address that stands for an IPv4 address (`isMapped`): the dotted tail is read back as its last two
groups. -/
theorem ofText?_mapped {address : Ipv6} (mapped : address.isMapped = true) :
    ofText? address.text = some address := by
  obtain ⟨groups, eight⟩ := address
  obtain ⟨g, h, rfl⟩ : ∃ g h, groups = [0, 0, 0, 0, 0, 0xffff, g, h] := by
    have front : groups.take 6 = [0, 0, 0, 0, 0, 0xffff] := by simpa [isMapped] using mapped
    have back : (groups.drop 6).length = 2 := by simp [eight]
    obtain ⟨g, h, last⟩ := List.length_eq_two.1 back
    refine ⟨g, h, ?_⟩
    rw [← List.take_append_drop 6 groups, front, last]
    rfl
  obtain ⟨a, b, c, d, tail⟩ : ∃ a b c d, Bytes.ofNat 2 g.toNat ++ Bytes.ofNat 2 h.toNat = [a, b, c, d] :=
    ⟨_, _, _, _, rfl⟩
  have last : groupsOfBytes [a, b, c, d] = [g, h] := by
    have second := groupsOfBytes_ofNat h []
    rw [List.append_nil] at second
    rw [← tail, groupsOfBytes_ofNat, second]
    rfl
  have written : text ⟨[0, 0, 0, 0, 0, 0xffff, g, h], eight⟩
      = ':' :: ':' :: ("ffff".toList ++ ':' :: Ipv4.text ⟨a, b, c, d⟩) := by
    have bytes : [g, h].flatMap (fun group => Bytes.ofNat 2 group.toNat) = [a, b, c, d] := by
      rw [List.flatMap_cons, List.flatMap_singleton, tail]
    simp only [text, mapped, if_true, List.drop_succ_cons, List.drop_zero, bytes]
    rfl
  have noColon : ':' ∉ Ipv4.text ⟨a, b, c, d⟩ := by
    intro there
    rcases Ipv4.isDigit_of_ofText? (Ipv4.ofText?_text ⟨a, b, c, d⟩) there with dot | digit
    · revert dot
      decide
    · revert digit
      decide
  have long : ¬ (Ipv4.text ⟨a, b, c, d⟩).length ≤ 4 := by
    have := List.length_pos_iff.2 (Numeral.write_ne_nil 10 a.toNat)
    have := List.length_pos_iff.2 (Numeral.write_ne_nil 10 b.toNat)
    have := List.length_pos_iff.2 (Numeral.write_ne_nil 10 c.toNat)
    have := List.length_pos_iff.2 (Numeral.write_ne_nil 10 d.toNat)
    simp only [Ipv4.text, Ipv4.toBytes, List.map_cons, List.map_nil, Text.join, List.length_append,
      List.length_cons]
    omega
  have cut : Text.pieces ':' ("ffff".toList ++ ':' :: Ipv4.text ⟨a, b, c, d⟩)
      = ["ffff".toList, Ipv4.text ⟨a, b, c, d⟩] := by
    rw [Text.pieces_append (by decide), Text.pieces_of_free noColon]
  have tailGroups : groupsOfText? true ("ffff".toList ++ ':' :: Ipv4.text ⟨a, b, c, d⟩)
      = some [0xffff, g, h] := by
    have first : groupOfText? "ffff".toList = some 0xffff := by decide
    have none : groupOfText? (Ipv4.text ⟨a, b, c, d⟩) = none := if_neg long
    have filled : ("ffff".toList ++ ':' :: Ipv4.text ⟨a, b, c, d⟩).isEmpty = false := rfl
    simp only [groupsOfText?, filled, cut, groupsOfPieces?, first, none, Ipv4.ofText?_text]
    simp [Ipv4.groups, Ipv4.toBytes, last]
  rw [written]
  simp only [ofText?, Text.cutAtPair, and_self, if_true, tailGroups, Option.bind_eq_bind,
    Option.bind_some]
  rfl

theorem ofText?_text (address : Ipv6) : ofText? address.text = some address := by
  by_cases mapped : address.isMapped = true
  · exact ofText?_mapped mapped
  · obtain ⟨front, back, cut, place⟩ := longestZeroRun_spec 0 address.groups
    simp only [text, mapped, Bool.false_eq_true, if_false]
    generalize longestZeroRun 0 address.groups = run at cut place ⊢
    rw [Nat.zero_add] at place
    split
    case isTrue elided =>
      have before : address.groups.take run.1 = front := by
        rw [cut, place, List.append_assoc, List.take_left]
      have behind : address.groups.drop (run.1 + run.2) = back := by
        rw [cut, place]
        exact List.drop_left' (by simp)
      rw [before, behind]
      exact ofText?_elided (by omega) cut
    case isFalse _ =>
      simp only [ofText?, cutAtPair_textOfGroups, groupsOfText?_textOfGroups, Option.bind_eq_bind,
        Option.bind_some, ofGroups?_groups]

theorem colon_mem_text (address : Ipv6) : ':' ∈ address.text := by
  unfold text
  split
  · exact List.mem_append_left _ (by decide)
  · dsimp only
    split
    · exact List.mem_append_right _ List.mem_cons_self
    · obtain ⟨first, second, others, groups⟩ : ∃ first second others,
          address.groups = first :: second :: others := by
        have eight := address.length_groups
        match h : address.groups with
        | [] => simp [h] at eight
        | [_] => simp [h] at eight
        | first :: second :: others => exact ⟨first, second, others, rfl⟩
      rw [groups, textOfGroups_cons_cons]
      exact List.mem_append_right _ List.mem_cons_self

end Ipv6

/-! ## Both kinds -/

namespace IpAddress

theorem ofChars?_chars (address : IpAddress) : ofChars? address.chars = some address := by
  cases address with
  | v4 address => simp [ofChars?, chars, Ipv4.ofText?_text]
  | v6 address =>
    have notV4 : Ipv4.ofText? address.text = none := by
      rw [Option.eq_none_iff_forall_not_mem]
      intro other read
      rcases Ipv4.isDigit_of_ofText? read address.colon_mem_text with dot | digit
      · revert dot
        decide
      · revert digit
        decide
    simp [ofChars?, chars, notV4, Ipv6.ofText?_text]

/-- What `IpAddress.text` writes is read back by `IpAddress.ofText?` as that address. -/
theorem ofText?_text (address : IpAddress) : ofText? address.text = some address := by
  rw [ofText?, text, String.toList_ofList, ofChars?_chars]

theorem text_injective {address other : IpAddress} (h : address.text = other.text) :
    address = other := by
  have same := congrArg ofText? h
  rw [ofText?_text, ofText?_text] at same
  exact Option.some.inj same

end IpAddress

end FlowCollector
