import FlowCollector.Failure
import FlowCollector.Settings.Environment
import FlowCollector.Settings.Toml

/-!
# Settings from a file

What the system gives for a path is an input here, so that reading a file is a function like any other.
Settings are checked as the file has them, and once more with the environment applied: a variable can
break settings but it can not mend a file that is wrong.
-/

set_option autoImplicit false

namespace FlowCollector

/-- What the system gives for the path of a file: nothing, a problem, or the text. -/
inductive FileContent where
  | text (content : String)
  | missing
  | unreadable (problem : FileProblem)
  deriving DecidableEq, Repr

/-- A file that was read, as text if its bytes are UTF-8. -/
def FileContent.ofBytes (bytes : ByteArray) : FileContent :=
  match String.fromUTF8? bytes with
  | some content => .text content
  | none => .unreadable .notUtf8

namespace Settings

/-- Reads the settings of a text by `Settings.ofText?`, whatever their values. -/
def read (text : String) : Except Failure Settings :=
  match ofText? text with
  | some settings => .ok settings
  | none => .error .unreadableSettings

/-- Settings that `Settings.check` has passed, as they are. -/
def checked (settings : Settings) : Except Failure Settings := do
  settings.check.mapError .settings
  return settings

/-- Reads and checks the settings of a file. What is wrong is told even where the environment would set it right. -/
def fromFile (path : String) : FileContent → Except Failure Settings
  | .missing => .error (.fileNotFound path)
  | .unreadable problem => .error (.file problem)
  | .text content => do checked (← read content)

/-- Reads and checks the settings of a file by `fromFile`, applies the environment by `override`, and checks them
again. -/
def load (path : String) (content : FileContent) (environment : Environment) :
    Except Failure Settings := do
  let settings ← fromFile path content
  checked (settings.override environment)

end Settings

end FlowCollector
