import FlowCollector.Settings

/-!
# The command line

Three options that take a value, and a flag. A value stands behind its option in the same word, with or without an
equals sign, or is the next word. No option can be given twice, none can be abbreviated, and there are no other
arguments.

An option whose value is the next word is not settled before something else is met: a word that means nothing is
complained about first. That is what `Reading.open?` and `Reading.settle` are for.
-/

set_option autoImplicit false

namespace FlowCollector

/-- What a command line asks for, as `CommandLine.read` finds it. -/
structure CommandLine where
  /-- The path of the settings file, if one is given. Otherwise it is `defaultPath`. -/
  config : Option String := none
  logLevel : Option String := none
  logFormat : Option String := none
  /-- True when the settings are to be checked, by `Settings.check` and what follows it, and nothing is to be run. -/
  validate : Bool := false
  deriving DecidableEq, Repr

namespace CommandLine

/-- The options that take a value, each a member of `CommandLine`. -/
inductive Key where
  | config
  | logLevel
  | logFormat
  deriving DecidableEq, Repr

/-- What a word can name: a `Key`, or something without a value. -/
inductive Name where
  | key (key : Key)
  | validate
  | help
  | version
  deriving DecidableEq, Repr

/-- Why nothing is run. To be asked for help or for the version is no error, but ends the reading all the same. -/
inductive Exit where
  | help
  | version
  | unknownArgument
  /-- A value is missing, or is empty and must not be. -/
  | invalidValue
  | conflict
  | unexpectedValue
  deriving DecidableEq, Repr

/-- What is said of a command line that cannot be run. -/
def Exit.complaint : Exit → String
  | help => ""
  | version => ""
  | unknownArgument => "error: unexpected argument found"
  | invalidValue => "error: a value is missing or invalid"
  | conflict => "error: an argument cannot be used multiple times"
  | unexpectedValue => "error: unexpected value for an argument"

def usage : String :=
  "\n".intercalate
    ["Usage: ironflow-daemon [OPTIONS]",
      "",
      "Options:",
      "  -c, --config <CONFIG>          Path to the settings file",
      "      --log-level <LOG_LEVEL>    Override log level (trace, debug, info, warn, error)",
      "      --log-format <LOG_FORMAT>  Override log format (json, pretty)",
      "      --validate                 Validate the settings and exit",
      "  -h, --help                     Print help",
      "  -V, --version                  Print version"]

/-- What a long name stands for. Names cannot be abbreviated. -/
def ofLongName? (name : List Char) : Option Name :=
  if name = "config".toList then some (.key .config)
  else if name = "log-level".toList then some (.key .logLevel)
  else if name = "log-format".toList then some (.key .logFormat)
  else if name = "validate".toList then some .validate
  else if name = "help".toList then some .help
  else if name = "version".toList then some .version
  else none

/-- What a letter stands for, of those that have a letter. -/
def ofLetter? : Char → Option Name
  | 'c' => some (.key .config)
  | 'h' => some .help
  | 'V' => some .version
  | _ => none

def get? (line : CommandLine) : Key → Option String
  | .config => line.config
  | .logLevel => line.logLevel
  | .logFormat => line.logFormat

/-- Gives an option a value. A path must not be empty, and no option is given one twice. -/
def set (line : CommandLine) (key : Key) (value : String) : Except Exit CommandLine :=
  if (line.get? key).isSome then .error .conflict
  else
    match key with
    | .config => if value = "" then .error .invalidValue else .ok { line with config := some value }
    | .logLevel => .ok { line with logLevel := some value }
    | .logFormat => .ok { line with logFormat := some value }

/-- How far the reading of a command line has got: what is settled, and the option that is not. -/
structure Reading where
  line : CommandLine := {}
  /-- The option last met, if its value is the next word, and that value once it is met. -/
  open? : Option (Key × Option String) := none
  deriving DecidableEq, Repr

namespace Reading

/-- Settles the option whose value is the next word, with the value that came or else with `Exit.invalidValue`. -/
def settle (reading : Reading) : Except Exit CommandLine :=
  match reading.open? with
  | none => .ok reading.line
  | some (_, none) => .error .invalidValue
  | some (key, some value) => reading.line.set key value

/-- Meets a name that has no value with it. A `Key` stays open until the next word. -/
def meet (reading : Reading) : Name → Except Exit Reading
  | .key key => do return { line := ← reading.settle, open? := some (key, none) }
  | .validate => do
    let line ← reading.settle
    if line.validate then throw .conflict
    else return { line := { line with validate := true } }
  | .help => do
    let _ ← reading.settle
    throw .help
  | .version => do
    let _ ← reading.settle
    throw .version

def meetValue (reading : Reading) (key : Key) (value : String) : Except Exit Reading := do
  return { line := ← (← reading.settle).set key value }

/-- Reads a long word behind its two dashes: a name, or a name with its value behind an equals sign. -/
def longWord (reading : Reading) (word : List Char) : Except Exit Reading :=
  let name := word.takeWhile (· != '=')
  let value := word.dropWhile (· != '=')
  match ofLongName? name, value with
  | none, _ => .error .unknownArgument
  | some name, [] => reading.meet name
  | some (.key key), _ :: value => reading.meetValue key (.ofList value)
  | some _, _ :: _ => .error .unexpectedValue

/-- Reads letters behind one dash. What follows a letter that takes a value is its value. -/
def letters (reading : Reading) : List Char → Except Exit Reading
  | [] => .ok reading
  | letter :: rest =>
    match ofLetter? letter, rest with
    | none, _ => .error .unknownArgument
    | some (.key key), '=' :: value => reading.meetValue key (.ofList value)
    | some (.key key), c :: value => reading.meetValue key (.ofList (c :: value))
    | some name, _ => do letters (← reading.meet name) rest

/-- Reads a word that is no name: the value of the option before it, or nothing that is known. -/
def plainWord (reading : Reading) (word : String) : Except Exit Reading :=
  match reading.open? with
  | some (key, none) => .ok { reading with open? := some (key, some word) }
  | _ => .error .unknownArgument

/-- Reads the words of a command line, by `longWord`, `letters` or `plainWord`. Behind two dashes there is nothing
that could be meant. -/
def words (reading : Reading) : List String → Except Exit CommandLine
  | [] => reading.settle
  | word :: others =>
    match word.toList with
    | ['-', '-'] => if others.isEmpty then reading.settle else .error .unknownArgument
    | '-' :: '-' :: name => do words (← reading.longWord name) others
    | '-' :: c :: name => do words (← reading.letters (c :: name)) others
    | _ => do words (← reading.plainWord word) others

end Reading

/-- Reads the words behind the program's name. -/
def read (words : List String) : Except Exit CommandLine := Reading.words {} words

/-- The settings file that is read when none is given. -/
def defaultPath : String := "/etc/ironflow/ironflow.toml"

/-- The settings with what the command line says instead of a file, behind what `Environment.override` has said. -/
def override (line : CommandLine) (settings : Settings) : Settings :=
  { settings with
    general.logLevel := line.logLevel.getD settings.general.logLevel
    general.logFormat := line.logFormat.getD settings.general.logFormat }

def path (line : CommandLine) : String := line.config.getD defaultPath

end CommandLine

end FlowCollector
