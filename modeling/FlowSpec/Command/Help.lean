import FlowSpec.Command.Flag
import FlowSpec.Text.Order
import FlowSpec.Text.Split

/-! The commands, their flags, and what is told of them. -/

set_option autoImplicit false

namespace FlowSpec

inductive Command where
  | generate
  | validate
  | deps
  | avro
  | inspect
deriving Repr, DecidableEq, Inhabited

namespace Command

/-- All commands, in the order of their names. -/
def all : List Command := [avro, deps, generate, inspect, validate]

def name : Command → String
  | generate => "generate"
  | validate => "validate"
  | deps => "deps"
  | avro => "avro"
  | inspect => "inspect"

def ofName? (name : String) : Option Command := all.find? fun command => command.name == name

def synopsis : Command → String
  | generate => "Generate the WIT interface of a package"
  | validate => "Check dataflow and package documents"
  | deps => "Print the package import tree of a document"
  | avro => "Export document types as Avro schemas"
  | inspect => "Print the compiled document as JSON"

/-- The flags of a command, those that all commands have among them. -/
def flags (command : Command) : FlagTable :=
  [("config", .text), ("dev", .switch)] ++ match command with
    | generate => [("o", .text), ("force", .switch)]
    | validate => [("parallel", .number)]
    | avro => [("namespace", .text)]
    | deps | inspect => []

def sharedHelp : String :=
  "\n  -config=path    Compiler configuration file. Defaults to sdfc.yaml."
    ++ "\n  -dev            Apply the dev.imports overrides of the document."

def help : Command → String
  | generate =>
    "Usage: sdfc generate [options] [package-file]\n\n"
      ++ "  Compiles a package document and writes api.wit into the output directory.\n"
      ++ "  Writing is skipped when api.wit already holds the rendered interface.\n\n"
      ++ "Options:\n\n"
      ++ "  -o=dir          Output directory, relative to the package. Defaults to .wit.\n"
      ++ "  -force          Rewrite api.wit even when it is up to date." ++ sharedHelp
  | validate =>
    "Usage: sdfc validate [options] [pattern ...]\n\n"
      ++ "  Compiles every document matching the patterns and reports the failures.\n"
      ++ "  Patterns support ** globs. Documents named like the configured package\n"
      ++ "  file are checked as packages.\n\n"
      ++ "Options:\n\n"
      ++ "  -parallel=n     Documents compiled at once. Defaults to 4." ++ sharedHelp
  | deps =>
    "Usage: sdfc deps [options] [document]\n\n"
      ++ "  Resolves the imports of a dataflow or package and prints them as a tree.\n\n"
      ++ "Options:" ++ sharedHelp
  | avro =>
    "Usage: sdfc avro [options] [document]\n\n"
      ++ "  Prints the Avro schema of every record, enum, row and key-value type in\n"
      ++ "  scope. For dataflows the key and value subject of every topic is listed\n"
      ++ "  too.\n\n"
      ++ "Options:\n\n"
      ++ "  -namespace=ns   Avro namespace. Defaults to the configured namespace." ++ sharedHelp
  | inspect =>
    "Usage: sdfc inspect [options] [document]\n\n"
      ++ "  Prints the resolved document, its type scope and the inferred service\n"
      ++ "  types as JSON.\n\n"
      ++ "Options:" ++ sharedHelp

/-- Pads a name to a width. -/
def padded (width : Nat) (name : String) : String :=
  name ++ String.ofList (List.replicate (width - name.length) ' ')

/-- The help that lists commands. -/
def overview (commands : List Command) : String :=
  let width := commands.foldl (fun width command => max width command.name.length) 0
  "Usage: sdfc [--version] [--help] <command> [<args>]\n\nAvailable commands are:\n"
    ++ Text.join "" (commands.map fun command =>
      "    " ++ padded width command.name ++ "    " ++ command.synopsis ++ "\n")

/-- The version of the tool. -/
def version : String := "0.1.0"

end Command

end FlowSpec
