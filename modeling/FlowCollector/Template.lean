import FlowCollector.Bytes
import FlowCollector.Sum

/-!
# Templates

NetFlow 9 and IPFIX records do not say what they hold. An exporter announces a template first, a list of
fields with the element and the width of each, and sends records that refer to it afterwards. An
options template is one whose records describe the exporter and not a flow.
-/

set_option autoImplicit false

namespace FlowCollector

/-- One field of a template: which element it is, and in how many bytes its values come. -/
structure FieldSpec where
  /-- The number of the information element, without the mark of an enterprise, `Announcement.enterpriseBit`. -/
  fieldType : UInt16
  /-- The width in bytes, or `variableLength`. -/
  length : UInt16
  /-- The enterprise that numbers the element, if it is not a standard one. Only standard ones are filled in. -/
  enterprise : Option UInt32 := none
  deriving DecidableEq, Repr

namespace FieldSpec

/-- The width that says that each value brings its own. -/
def variableLength : UInt16 := 0xffff

/-- True of a field whose values bring their own width, with the length `variableLength`. -/
def isVariable (field : FieldSpec) : Bool := field.length == variableLength

/-- The fewest bytes a value takes: its width, or the byte that says so where it brings a width of its own. -/
def leastLength (field : FieldSpec) : Nat :=
  if field.isVariable then 1 else field.length.toNat

end FieldSpec

/-- What the records of a template are about. The two kinds are announced by sets of different numbers. -/
inductive TemplateKind where
  | data
  /-- The exporter itself; the first fields, so many, tell which part of it. -/
  | options (scopeFields : Nat)
  deriving DecidableEq, Repr

/-- The layout of a record: the fields one behind the other. -/
structure Template where
  kind : TemplateKind
  fields : List FieldSpec
  deriving DecidableEq, Repr

namespace Template

/-- True of the templates whose records are not flows, those of kind `options`. -/
def isOptions (template : Template) : Bool :=
  match template.kind with
  | .data => false
  | .options _ => true

/-- How many fields tell the scope of a record. A record of a flow has none of them. -/
def scopeFields (template : Template) : Nat :=
  match template.kind with
  | .data => 0
  | .options count => count

/-- The fewest bytes a record takes, by `FieldSpec.leastLength` of each field. Less at the end of a data set is
padding. -/
def leastRecordLength (template : Template) : Nat :=
  sumOf FieldSpec.leastLength template.fields

end Template

end FlowCollector
