import FlowCollector.Netflow.Set
import FlowCollector.Template

/-!
# Announcements

What the template sets of a message say: that a template holds from now on, or that one is withdrawn. An announcement
is read as a whole before anything is done with it. Nothing is known of a template whose field list is cut off, and
that is why reading gives an `Announcement` and does not touch the `Store`. `Session.announce` does that.
-/

set_option autoImplicit false

namespace FlowCollector.Netflow

/-- What one record of a template set says, as `readTemplate` or `readOptionsTemplate` reads it. -/
inductive Announcement where
  /-- The template of this number is as follows, whatever it was before. -/
  | define (id : UInt16) (template : Template)
  /-- The template of this number is no more. A number below 256 withdraws all templates of the domain. -/
  | withdraw (id : UInt16)
  /-- Nothing: in version 9 a template without fields has no meaning. -/
  | blank
  deriving DecidableEq, Repr

namespace Announcement

/-- The mark of an enterprise's own element, in front of its number. -/
def enterpriseBit : UInt16 := 0x8000

/-- Reads one field of a template. Only IPFIX has elements of enterprises, marked by `enterpriseBit`, and values that
bring their own length. -/
def readField (version : Version) : Reader FieldSpec := do
  let number ← Reader.u16 .templateField
  let length ← Reader.u16 .templateField
  match version with
  | .v9 =>
    if length = FieldSpec.variableLength then
      Reader.fail (.malformedLength .templateField length.toNat 0)
    else return { fieldType := number, length }
  | .ipfix =>
    if number &&& enterpriseBit ≠ 0 then
      let enterprise ← Reader.u32 .templateField
      return { fieldType := number &&& ~~~enterpriseBit, length, enterprise := some enterprise }
    else return { fieldType := number, length }

/-- Reads the fields of a template, each by `readField`. A count that the set is too short for is an error before any
field is read. -/
def readFields (version : Version) (count : Nat) : Reader (List FieldSpec) := do
  let remaining ← Reader.remaining
  if remaining < count * 4 then
    Reader.fail (.malformedLength .template (count * 4) remaining)
  else Reader.times count (readField version)


/-- Reads one record of a template set: the template's number, how many fields, and the fields by `readFields`. -/
def readTemplate (version : Version) : Reader Announcement := do
  let id ← Reader.u16 .template
  let count ← Reader.u16 .template
  if count = 0 then
    match version with
    | .v9 => return .blank
    | .ipfix => return .withdraw id
  else
    let fields ← readFields version count.toNat
    return .define id ⟨.data, fields⟩

/-- Reads one record of an options template set of version 9, which gives the lengths of its two field lists in
bytes. -/
def readOptionsTemplateV9 : Reader Announcement := do
  let id ← Reader.u16 .optionsTemplate
  let scope := (← Reader.u16 .optionsTemplate).toNat
  let options := (← Reader.u16 .optionsTemplate).toNat
  let remaining ← Reader.remaining
  if scope % 4 ≠ 0 ∨ options % 4 ≠ 0 then
    Reader.fail (.malformedLength .optionsTemplate (scope + options) remaining)
  else
    let fields ← readFields .v9 (scope / 4 + options / 4)
    return .define id ⟨.options (scope / 4), fields⟩

/-- Reads one record of an options template set of IPFIX, which counts all fields and those of the scope among
them. -/
def readOptionsTemplateIpfix : Reader Announcement := do
  let id ← Reader.u16 .optionsTemplate
  let count := (← Reader.u16 .optionsTemplate).toNat
  if count = 0 then return .withdraw id
  else
    let scope := (← Reader.u16 .optionsTemplate).toNat
    if count < scope then
      Reader.fail (.malformedLength .optionsTemplateScope scope count)
    else
      let fields ← readFields .ipfix count
      return .define id ⟨.options scope, fields⟩

def readOptionsTemplate : Version → Reader Announcement
  | .v9 => readOptionsTemplateV9
  | .ipfix => readOptionsTemplateIpfix

/-- The fewest bytes that are more than padding in an options template set: IPFIX withdraws in four. -/
def leastOptionsTemplateLength : Version → Nat
  | .v9 => 6
  | .ipfix => 4

/-- The records of a template set, each by `readTemplate`, up to the first malformed one, and its error. -/
def ofTemplateSet (version : Version) (body : Bytes) : List Announcement × Option DecodeError :=
  Reader.many 4 (readTemplate version) body

/-- The records of an options template set, each by `readOptionsTemplate`, up to the first malformed one, and its
error. -/
def ofOptionsTemplateSet (version : Version) (body : Bytes) :
    List Announcement × Option DecodeError :=
  Reader.many (leastOptionsTemplateLength version) (readOptionsTemplate version) body

end Announcement

end FlowCollector.Netflow
