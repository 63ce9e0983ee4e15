import FlowCollector.Address
import FlowCollector.Text.Numeral
import FlowCollector.Text.Split

/-!
# Addresses as text

IPv4 is four decimal parts of at most three digits, without zeros in front. IPv6 is groups of at most
four hexadecimal digits between colons, where `::` stands once for one or more groups of zeros and the
last two groups may be written as an IPv4 address.

Reading accepts every such text and writing picks one of them: small letters, the longest run of two or
more zero groups elided (the first of equals), and the dotted tail for mapped IPv4 addresses only.
-/

set_option autoImplicit false

namespace FlowCollector

namespace Ipv4

/-- The text of an address: four decimal numbers with dots between them. -/
def text (address : Ipv4) : List Char :=
  Text.join '.' (address.toBytes.map fun byte => Numeral.write 10 byte.toNat)

/-- One decimal part of an address: one to three digits, no zero in front, and at most 255. -/
def byteOfText? (text : List Char) : Option UInt8 :=
  if text.length ≤ 3 ∧ (text.length = 1 ∨ text.head? ≠ some '0') then
    ((Numeral.read? 10 text).filter (· < 256)).map .ofNat
  else none

/-- The address that a text spells, cut at its dots into parts of `byteOfText?`. -/
def ofText? (text : List Char) : Option Ipv4 := do
  ofBytes? (← (Text.pieces '.' text).mapM byteOfText?)

/-- The address as the last two groups of an IPv6 address, for the dotted tail that `Ipv6.text` writes of a mapped
one. -/
def groups (address : Ipv4) : List UInt16 := Ipv6.groupsOfBytes address.toBytes

end Ipv4

namespace Ipv6

/-- One hexadecimal group of an address: one to four digits, in either case. -/
def groupOfText? (text : List Char) : Option UInt16 :=
  if text.length ≤ 4 then (Numeral.read? 16 text).map .ofNat else none

/-- The groups between colons. Only the last may be written as an IPv4 address, and only if `dotted`. -/
def groupsOfPieces? (dotted : Bool) : List (List Char) → Option (List UInt16)
  | [] => some []
  | [piece] =>
    match groupOfText? piece with
    | some group => some [group]
    | none => if dotted then (Ipv4.ofText? piece).map Ipv4.groups else none
  | piece :: others => do
    let group ← groupOfText? piece
    return group :: (← groupsOfPieces? dotted others)

/-- The groups that a text without `::` spells, none for the empty text. -/
def groupsOfText? (dotted : Bool) (text : List Char) : Option (List UInt16) :=
  if text.isEmpty then some [] else groupsOfPieces? dotted (Text.pieces ':' text)

/-- The address that a text spells. Without `::` all eight groups have to be there, and with it at most seven, the
missing ones being zeros. -/
def ofText? (text : List Char) : Option Ipv6 := do
  match Text.cutAtPair ':' text with
  | none => ofGroups? (← groupsOfText? true text)
  | some (front, back) =>
    let front ← groupsOfText? false front
    let back ← groupsOfText? true back
    if front.length + back.length < 8 then
      ofGroups? (front ++ List.replicate (8 - front.length - back.length) 0 ++ back)
    else none

/-- The start and the length of the longest run of zero groups, the first of equals. Counting starts at `start`.
`Ipv6.text` writes `::` for it if it is two groups or more. -/
def longestZeroRun : (start : Nat) → List UInt16 → Nat × Nat
  | start, [] => (start, 0)
  | start, group :: rest =>
    let here := ((group :: rest).takeWhile (· == 0)).length
    let later := longestZeroRun (start + 1) rest
    if later.2 ≤ here then (start, here) else later

/-- The groups of a text without `::`, in small letters and without zeros in front. -/
def textOfGroups (groups : List UInt16) : List Char :=
  Text.join ':' (groups.map fun group => Numeral.write 16 group.toNat)

/-- True of the addresses that stand for an IPv4 address: five groups of zeros and one of `0xffff` in front of it. -/
def isMapped (address : Ipv6) : Bool :=
  address.groups.take 6 == [0, 0, 0, 0, 0, 0xffff]

/-- The text of an address. Of all the texts that `Ipv6.ofText?` reads as it, this is the one that is written. -/
def text (address : Ipv6) : List Char :=
  if address.isMapped then
    let tail := (address.groups.drop 6).flatMap fun group => Bytes.ofNat 2 group.toNat
    "::ffff:".toList ++ Text.join '.' (tail.map fun byte => Numeral.write 10 byte.toNat)
  else
    let (start, length) := longestZeroRun 0 address.groups
    if 2 ≤ length then
      textOfGroups (address.groups.take start) ++ ':' :: ':' ::
        textOfGroups (address.groups.drop (start + length))
    else textOfGroups address.groups

end Ipv6

namespace IpAddress

/-- The text of an address, as characters. -/
def chars : IpAddress → List Char
  | .v4 address => address.text
  | .v6 address => address.text

/-- The text of an address, as it stands in a record and in a socket address of IPv4. -/
def text (address : IpAddress) : String := String.ofList address.chars

/-- The address that characters spell: an `Ipv4` if they are one, and an `Ipv6` otherwise. -/
def ofChars? (chars : List Char) : Option IpAddress :=
  match Ipv4.ofText? chars with
  | some address => some (.v4 address)
  | none => (Ipv6.ofText? chars).map .v6

/-- The address that a text spells, by `ofChars?`. -/
def ofText? (text : String) : Option IpAddress := ofChars? text.toList

end IpAddress

end FlowCollector
