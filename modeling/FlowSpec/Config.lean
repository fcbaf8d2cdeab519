import FlowSpec.FileTree
import FlowSpec.Json
import FlowSpec.Text.Boolean
import FlowSpec.Text.LetterCase
import FlowSpec.Yaml.Decode
import FlowSpec.Yaml.Document

/-!
The configuration of the compiler: defaults, over them a file where there is one, and over both the
variables of the environment.
-/

set_option autoImplicit false

namespace FlowSpec

/-- How much is logged. -/
inductive LogLevel where
  | trace
  | debug
  | info
  | warn
  | error
  | off
deriving Repr, DecidableEq, Inhabited

namespace LogLevel

def all : List LogLevel := [trace, debug, info, warn, error, off]

def name : LogLevel → String
  | trace => "trace"
  | debug => "debug"
  | info => "info"
  | warn => "warn"
  | error => "error"
  | off => "off"

/-- The level of a word; blanks around it and its letter case do not matter. -/
def ofText? (text : String) : Option LogLevel :=
  all.find? fun level => level.name == Text.lowered (Text.trim text)

end LogLevel

structure Config where
  useDevelopment : Bool := false
  output : String := ".wit"
  dataflowFile : String := "dataflow.yaml"
  packageFile : String := "sdf-package.yaml"
  logLevel : String := "info"
  logJson : Bool := false
  avroNamespace : String := "com.example.sdf"
deriving Repr, DecidableEq, Inhabited

namespace Config

/-- The name of the configuration file when none is chosen. -/
def defaultFile : String := "sdfc.yaml"

inductive Error where
  | unreadable (path : String) (fault : Yaml.Fault)
  | undecodable (path : String) (failure : Yaml.Failure Empty)
  | notBoolean (setting value : String)
  | emptyField (name : String)
  | unknownLevel (level : String)
deriving Inhabited

/-- How a failed reading is told. -/
def failureMessage : Yaml.Failure Empty → String
  | .problem cause => "yaml: " ++ cause.text
  | .mismatches found =>
    "yaml: unmarshal errors:\n  " ++ Text.join "\n  " (found.map Yaml.Mismatch.text)
  | .rule cause => nomatch cause

def Error.message : Error → String
  | unreadable path fault => "parse config " ++ path ++ ": " ++ fault.message
  | undecodable path failure => "parse config " ++ path ++ ": " ++ failureMessage failure
  | notBoolean setting value =>
    setting ++ ": " ++ Text.readingMessage "ParseBool" value .malformed
  | emptyField name => name ++ " cannot be empty"
  | unknownLevel level => "unknown log level " ++ Text.quoted level

/-! ### File -/

open Yaml (Reader)

/-- The settings of the log inside a configuration. -/
def logReader : Reader Empty Config :=
  .record "config.LogConfig" {}
    [Reader.string.field "level" logLevel fun c v => { c with logLevel := v },
      Reader.bool.field "json" logJson fun c v => { c with logJson := v }]

def avroReader : Reader Empty Config :=
  .record "config.AvroConfig" {}
    [Reader.string.field "namespace" avroNamespace fun c v => { c with avroNamespace := v }]

def reader : Reader Empty Config :=
  .record "config.Config" {}
    [Reader.bool.field "dev" useDevelopment fun c v => { c with useDevelopment := v },
      Reader.string.field "output" output fun c v => { c with output := v },
      Reader.string.field "dataflowFile" dataflowFile fun c v => { c with dataflowFile := v },
      Reader.string.field "packageFile" packageFile fun c v => { c with packageFile := v },
      logReader.field "log" id fun _ c => c,
      avroReader.field "avro" id fun _ c => c]

/-- Reads the text of a configuration file over the defaults. -/
def ofText (path text : String) : Except Error Config :=
  match Yaml.parse text with
  | .error fault => .error (.unreadable path fault)
  | .ok none => .ok {}
  | .ok (some node) => (reader.decode node).mapError (Error.undecodable path)

/-! ### Environment -/

/-- Variables with their values. -/
abbrev Environment := List (String × String)

/-- Sets a text if its variable is there. -/
def setText (environment : Environment) (setting : String) (old : String) : String :=
  (environment.lookup setting).getD old

/-- Sets a truth value if its variable is there. -/
def setBool (environment : Environment) (setting : String) (old : Bool) : Except Error Bool :=
  match environment.lookup setting with
  | none => .ok old
  | some value => (Text.readBool value).mapError fun _ => Error.notBoolean setting value

def applyEnvironment (environment : Environment) (config : Config) : Except Error Config := do
  return { config with
    output := setText environment "SDFC_OUTPUT" config.output
    dataflowFile := setText environment "SDFC_DATAFLOW_FILE" config.dataflowFile
    packageFile := setText environment "SDFC_PACKAGE_FILE" config.packageFile
    logLevel := setText environment "SDFC_LOG_LEVEL" config.logLevel
    avroNamespace := setText environment "SDFC_AVRO_NAMESPACE" config.avroNamespace
    useDevelopment := ← setBool environment "SDFC_DEV" config.useDevelopment
    logJson := ← setBool environment "SDFC_LOG_JSON" config.logJson }

/-- Files and the output must have names, and the log a level. -/
def validate (config : Config) : Except Error Config :=
  if config.dataflowFile.isEmpty then .error (.emptyField "dataflowFile")
  else if config.packageFile.isEmpty then .error (.emptyField "packageFile")
  else if config.output.isEmpty then .error (.emptyField "output")
  else if (LogLevel.ofText? config.logLevel).isNone then .error (.unknownLevel config.logLevel)
  else .ok config

/-- The configuration for a file that may be missing. -/
def load (tree : FileTree) (environment : Environment) (path : String) : Except Error Config := do
  let config ← match tree.read path with
    | .ok text => ofText path text
    | .error _ => pure {}
  (← applyEnvironment environment config).validate

def toJson (config : Config) : Json :=
  .object [("dev", .bool config.useDevelopment), ("output", .text config.output),
    ("dataflowFile", .text config.dataflowFile), ("packageFile", .text config.packageFile),
    ("log", .object [("level", .text config.logLevel), ("json", .bool config.logJson)]),
    ("avro", .object [("namespace", .text config.avroNamespace)]),
    ("effective_level", .text ((LogLevel.ofText? config.logLevel).getD .info).name)]

end Config

end FlowSpec
