import FlowCollector.Bytes
import FlowCollector.Text.Numeral

/-!
# Bytes as text

Two hexadecimal digits a byte, nothing between them. `ofHex?` reads either case, and `hex` writes the small letters. A
`Capture` holds its datagram in this form.
-/

set_option autoImplicit false

namespace FlowCollector.Bytes

def hexChars (bytes : Bytes) : List Char :=
  bytes.flatMap fun byte => [Nat.digitChar (byte.toNat / 16), Nat.digitChar (byte.toNat % 16)]

/-- The text of bytes, in small letters. -/
def hex (bytes : Bytes) : String := .ofList (hexChars bytes)

/-- The bytes that digits spell, two by two. A digit without a partner spells none, unlike `Ipv6.groupsOfBytes`. -/
def ofHexChars? : List Char → Option Bytes
  | [] => some []
  | [_] => none
  | high :: low :: rest => do
    let byte ← Numeral.read? 16 [high, low]
    return .ofNat byte :: (← ofHexChars? rest)

/-- The bytes that a text spells, in either case. -/
def ofHex? (text : String) : Option Bytes := ofHexChars? text.toList

end FlowCollector.Bytes
