import FlowCollector.Settings
import FlowCollector.Toml.Document

/-!
# Settings from TOML

A section is a table whose known keys have values of the right kinds. Missing keys take their defaults and
other keys are passed over, if only their values can be read at all. A section may also be an array that
gives its settings by position, in which the settings behind the last are missing and further values are
passed over unread. A date in the place of a section says nothing about any setting.
-/

set_option autoImplicit false

namespace FlowCollector

namespace Toml

/-- The settings of a section with the given keys, if all values behind other keys can be read (`membersReadable`). An
array gives them by position. -/
def section? (keys : List String) : Toml → Option Members
  | .table _ members =>
    if membersReadable (members.filter fun entry => !keys.contains entry.1) then some members
    else none
  | .array items => some (keys.zip items)
  | .tables items => some (keys.zip (items.map (.table .explicit)))
  | .datetime => some []
  | _ => none

/-- A setting, or its default if it is missing. One that is there has to be read by `read?`. -/
def setting? {α : Type} (members : Members) (key : String) (read? : Toml → Option α)
    (default : α) : Option α :=
  match member? key members with
  | none => some default
  | some value => read? value

def text? : Toml → Option String
  | .string text => some text
  | _ => none

/-- A value as a choice between yes and no. A text is none, other than in `Environment.flag?`. -/
def flag? : Toml → Option Bool
  | .boolean value => some value
  | _ => none

/-- A value as a number below a limit. A number with a fraction is none. -/
def below? (limit : Nat) : Toml → Option Nat
  | .integer value => if 0 ≤ value ∧ value < limit then some value.toNat else none
  | _ => none

/-- A value as a number of sixty-four bits, by `below?`. -/
def word? (value : Toml) : Option UInt64 := (value.below? UInt64.size).map .ofNat

/-- A value as a port, by `below?`. -/
def port? (value : Toml) : Option UInt16 := (value.below? UInt16.size).map .ofNat

/-- A value as a list: an array of values, or the sections that stand under one doubled header. -/
def items? : Toml → Option (List Toml)
  | .array items => some items
  | .tables items => some (items.map (.table .explicit))
  | _ => none

end Toml

/-- The general settings of a section, by `setting?` for each key. -/
def GeneralSettings.ofToml? (value : Toml) : Option GeneralSettings := do
  let members ← value.section? ["log_level", "log_format"]
  let default : GeneralSettings := {}
  return {
    logLevel := ← Toml.setting? members "log_level" Toml.text? default.logLevel
    logFormat := ← Toml.setting? members "log_format" Toml.text? default.logFormat }

/-- The input of a section, by `setting?` for each key. -/
def InputSettings.ofToml? (value : Toml) : Option InputSettings := do
  let members ← value.section? ["decoder", "listen", "workers", "queue_size", "decode_workers"]
  let default : InputSettings := {}
  return {
    decoder := ← Toml.setting? members "decoder" Toml.text? default.decoder
    listen := ← Toml.setting? members "listen" Toml.text? default.listen
    workers := ← Toml.setting? members "workers" Toml.word? default.workers
    queueSize := ← Toml.setting? members "queue_size" Toml.word? default.queueSize
    decodeWorkers := ← Toml.setting? members "decode_workers" Toml.word? default.decodeWorkers }

/-- The inputs of a list of sections, each by `InputSettings.ofToml?`. -/
def InputSettings.listOfToml? (value : Toml) : Option (List InputSettings) := do
  (← value.items?).mapM InputSettings.ofToml?

/-- The collector's settings of a section, with `InputSettings.listOfToml?` for the inputs. -/
def FlowSettings.ofToml? (value : Toml) : Option FlowSettings := do
  let members ← value.section? ["inputs", "outgoing_queue_size", "drain_timeout_secs"]
  let default : FlowSettings := {}
  return {
    inputs := ← Toml.setting? members "inputs" InputSettings.listOfToml? default.inputs
    outgoingQueueSize :=
      ← Toml.setting? members "outgoing_queue_size" Toml.word? default.outgoingQueueSize
    drainTimeoutSecs :=
      ← Toml.setting? members "drain_timeout_secs" Toml.word? default.drainTimeoutSecs }

/-- The endpoint's settings of a section, by `setting?` for each key. -/
def MetricsSettings.ofToml? (value : Toml) : Option MetricsSettings := do
  let members ← value.section? ["enabled", "listen_addr", "port", "endpoint"]
  let default : MetricsSettings := {}
  return {
    enabled := ← Toml.setting? members "enabled" Toml.flag? default.enabled
    listenAddress := ← Toml.setting? members "listen_addr" Toml.text? default.listenAddress
    port := ← Toml.setting? members "port" Toml.port? default.port
    endpoint := ← Toml.setting? members "endpoint" Toml.text? default.endpoint }

namespace Settings

/-- The settings of a document, section by section. A section that is missing has all of its defaults. -/
def ofToml? (document : Toml) : Option Settings := do
  let members ← document.section? ["general", "flow", "metrics"]
  return {
    general := ← Toml.setting? members "general" GeneralSettings.ofToml? {}
    flow := ← Toml.setting? members "flow" FlowSettings.ofToml? {}
    metrics := ← Toml.setting? members "metrics" MetricsSettings.ofToml? {} }

/-- The settings of a text, by `Toml.document?` and `ofToml?`. -/
def ofText? (text : String) : Option Settings := do
  ofToml? (.table .explicit (← Toml.document? text))

end Settings

end FlowCollector
