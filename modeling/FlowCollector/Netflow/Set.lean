import FlowCollector.Reader

/-!
# Sets

The body of a NetFlow 9 or IPFIX message is a row of sets, each with a number and its own length. The
row is cut before any set is read, so a set that makes no sense inside cannot shift the ones behind it.
Only a length that fits nothing ends the row early.
-/

set_option autoImplicit false

namespace FlowCollector.Netflow

/-- The two formats that announce templates. They differ in their headers, in `templateSetId` and
`optionsTemplateSetId`, and in the fields an `Announcement` may have. -/
inductive Version where
  | v9
  | ipfix
  deriving DecidableEq, Repr

namespace Version

/-- The number of the sets that announce templates of data records, in the numbering of `RawSet.id`. -/
def templateSetId : Version → UInt16
  | .v9 => 0
  | .ipfix => 2

/-- The number of the sets that announce templates of options records, in the numbering of `RawSet.id`. -/
def optionsTemplateSetId : Version → UInt16
  | .v9 => 1
  | .ipfix => 3

end Version

/-- The least number of a data set, and so of a template that can be used: `Session.announce` keeps none below it. -/
def leastDataSetId : UInt16 := 256

/-- A set as `RawSet.split` cuts it out of a message: its number, and its body without `headerLength`. -/
structure RawSet where
  id : UInt16
  body : Bytes
  deriving DecidableEq, Repr

namespace RawSet

/-- The length of a set's number and length. The declared length of a set counts them in. -/
def headerLength : Nat := 4

/-- Takes a set from the front of a message's body. A declared length that is less than `headerLength`, or more than
there is, is malformed. -/
def read : Reader RawSet := do
  let id ← Reader.u16 .setHeader
  let length := (← Reader.u16 .setHeader).toNat
  let remaining ← Reader.remaining
  if length < headerLength then
    Reader.fail (.malformedLength .set length (remaining + headerLength))
  else
    return ⟨id, ← Reader.take .set (length - headerLength)⟩

/-- Cuts a body into sets by `read`. Less than `headerLength` at the end is padding; a set that cannot be cut out ends
the row with an error. -/
def split (body : Bytes) : List RawSet × Option DecodeError :=
  Reader.many headerLength read body

/-- A set as it stands in a message. `read` takes it off again when its length fits in sixteen bits. -/
def encode (set : RawSet) : Bytes :=
  Bytes.ofNat 2 set.id.toNat ++ Bytes.ofNat 2 (set.body.length + headerLength) ++ set.body

end RawSet

end FlowCollector.Netflow
