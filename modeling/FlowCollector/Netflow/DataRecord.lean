import FlowCollector.Element
import FlowCollector.Netflow.Set
import FlowCollector.Template

/-!
# Data records

Reading a data set has two halves that need nothing of each other. `DataRecord.split` cuts its body into
the values of its records, and for that the widths of the template's fields are enough.
`DataRecord.fill` says what the values of one record mean. A record that the body is too short for is
found by the first half, so the second sees complete records only, and a cut-off record leaves nothing
behind.
-/

set_option autoImplicit false

namespace FlowCollector.Netflow.DataRecord

/-- Reads the width that a value brings: one byte, or three for the longer ones. -/
def readLength : Reader Nat := do
  let short ← Reader.u8 .variableLength
  if short = 255 then return (← Reader.u16 .variableLength).toNat
  else return short.toNat

/-- Reads the value of one field, which is as wide as the field or, if `FieldSpec.isVariable`, as wide as it says
itself. -/
def readValue (field : FieldSpec) : Reader Bytes := do
  let length ← if field.isVariable then readLength else pure field.length.toNat
  Reader.take .dataRecord length

/-- Reads the values of a record, one for each field, by `readValue`. -/
def readValues : List FieldSpec → Reader (List Bytes)
  | [] => return []
  | field :: others => do
    let value ← readValue field
    let values ← readValues others
    return value :: values

/-- Cuts the body of a data set into records, the values of each by the fields of the template. What is left behind
the last one and is shorter than any record (`Template.leastRecordLength`) is padding; a record that turns out longer
than what is left ends the set with an error. -/
def split (template : Template) (body : Bytes) : List (List Bytes) × Option DecodeError :=
  Reader.many template.leastRecordLength (readValues template.fields) body

/-- How many fields in front say nothing here. The scope fields of version 9 are numbered apart from the elements. -/
def hiddenFields (version : Version) (template : Template) : Nat :=
  match version with
  | .v9 => template.scopeFields
  | .ipfix => 0

/-- The fields of a record that name a standard element, with their values, behind those of `hiddenFields`. An element
of an enterprise is left out. -/
def standardFields (version : Version) (template : Template) (values : List Bytes) :
    List (UInt16 × Bytes) :=
  ((template.fields.zip values).drop (hiddenFields version template)).filterMap
    fun (field, value) =>
      match field.enterprise with
      | none => some (field.fieldType, value)
      | some _ => none

/-- What the values of a record mean, by `FieldState.applyFields`, and which of its `standardFields` could not be
used. -/
def fill (version : Version) (template : Template) (blank : FieldState) (values : List Bytes) :
    FieldState × List DecodeError :=
  blank.applyFields (standardFields version template values)

end FlowCollector.Netflow.DataRecord
