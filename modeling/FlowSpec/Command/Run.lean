import FlowSpec.Avro.Export
import FlowSpec.Command.Help
import FlowSpec.Compiler
import FlowSpec.Config
import FlowSpec.Glob.Search

/-!
Running commands on a tree of files. A run ends with a code, what was printed, what was told as
help, and the tree as the command left it.
-/

set_option autoImplicit false

namespace FlowSpec.Command

/-- Where a command runs. -/
structure World where
  tree : FileTree
  environment : Config.Environment := []
  isReadOnly : Bool := false
deriving Repr, Inhabited

structure Outcome where
  code : Nat := 0
  out : String := ""
  err : String := ""
  help : String := ""
  tree : FileTree
deriving Repr, Inhabited

namespace World

/-- Prints a line. -/
def say (world : World) (line : String) : Outcome := { out := line ++ "\n", tree := world.tree }

/-- Fails with a message. -/
def fail (world : World) (message : String) : Outcome :=
  { code := 1, err := message ++ "\n", tree := world.tree }

/-- Ends with help. -/
def tell (world : World) (code : Nat) (help : String) : Outcome :=
  { code, help := help ++ "\n", tree := world.tree }

/-- The configuration that a command's flags choose. -/
def config (world : World) (arguments : Arguments) : Except Config.Error Config := do
  let file := (arguments.flags.lookup "config").getD Config.defaultFile
  let config ← Config.load world.tree world.environment file
  return if arguments.isSet "dev" then { config with useDevelopment := true } else config

/-- The document that is worked on when none is named: the dataflow if there is one, else the
package. -/
def document (world : World) (config : Config) : String :=
  if world.tree.has config.dataflowFile then config.dataflowFile else config.packageFile

/-- Runs a compilation that has not read any package yet. -/
def compile (world : World) (config : Config) (action : Compiler.Compile Compiler.Result) :
    Except Compiler.Error Compiler.Result :=
  (action.run.run { tree := world.tree, file := config.packageFile }).1

/-- Compiles the document named by the first argument and hands it on. -/
def withResult (world : World) (arguments : Arguments)
    (next : Config → Compiler.Result → Outcome) : Outcome :=
  match world.config arguments with
  | .error error => world.fail error.message
  | .ok config =>
    let path := arguments.rest.headD (world.document config)
    match world.compile config (Compiler.compile config.useDevelopment path) with
    | .error error => world.fail error.message
    | .ok result => next config result

end World

/-! ### Commands -/

def interfaceFile : String := "api.wit"

/-- Writes an interface, and beside it a file that keeps the folder out of version control. -/
def writeInterface (tree : FileTree) (folder text : String) : FileTree :=
  ((tree.addFolder folder).write (Path.join [folder, interfaceFile]) text).write
    (Path.join [folder, ".gitignore"]) "*"

/-- The folder that an interface goes to. -/
def outputFolder (config : Config) (arguments : Arguments) (path : String) : String :=
  let given := arguments.text "o"
  let output := if given.isEmpty then config.output else given
  if output.toList.head? = some '/' then output else Path.join [Path.parent path, output]

/-- The interface file is there with just this text. -/
def isCurrent (tree : FileTree) (folder text : String) : Bool :=
  match tree.read (Path.join [folder, interfaceFile]) with
  | .ok old => old == text
  | .error _ => false

def putInterface (world : World) (isForced : Bool) (folder text : String) : Outcome :=
  let file := Path.join [folder, interfaceFile]
  if !isForced && isCurrent world.tree folder text then world.say (file ++ " is up to date")
  else if world.isReadOnly then world.fail "create output dir: operation not permitted"
  else
    { out := "wrote " ++ file ++ " (" ++ Digest.hex text ++ ")\n"
      tree := writeInterface world.tree folder text }

def runGenerate (world : World) (arguments : Arguments) : Outcome :=
  match world.config arguments with
  | .error error => world.fail error.message
  | .ok config =>
    let path := arguments.rest.headD config.packageFile
    match world.compile config (Compiler.compilePackage config.useDevelopment path) with
    | .error error => world.fail error.message
    | .ok result => match result.interface with
      | .error error => world.fail error.message
      | .ok description =>
        putInterface world (arguments.isSet "force") (outputFolder config arguments path)
          description.text

/-- The files that patterns match, each once; or the first pattern that is none. -/
def expand (tree : FileTree) (patterns : List String) : Except String (List String) :=
  patterns.foldlM (fun paths pattern =>
    if Glob.isValid pattern then
      .ok ((Glob.files tree pattern).foldl (fun paths path =>
        if paths.contains path then paths else paths ++ [path]) paths)
    else .error pattern) []

/-- Compiles documents one by one. -/
def validateAll (world : World) (config : Config) (paths : List String) : Outcome :=
  let results := paths.map fun path =>
    (path, world.compile config (Compiler.compile config.useDevelopment path))
  let good := results.filter fun result => result.2.toBool
  let failures := results.filterMap fun (path, result) => match result with
    | .error error => some (path ++ ": invalid\n" ++ error.message ++ "\n")
    | .ok _ => none
  let summary := toString failures.length ++ " of " ++ toString paths.length
    ++ " documents failed validation\n"
  { code := if failures.isEmpty then 0 else 1
    out := Text.join "" (good.map fun result => result.1 ++ ": ok\n")
    err := Text.join "" failures ++ if failures.isEmpty then "" else summary
    tree := world.tree }

def runValidate (world : World) (arguments : Arguments) : Outcome :=
  match world.config arguments with
  | .error error => world.fail error.message
  | .ok config =>
    let patterns := if arguments.rest.isEmpty then [world.document config] else arguments.rest
    match expand world.tree patterns with
    | .error pattern => world.fail ("invalid pattern " ++ Text.quoted pattern)
    | .ok [] => world.fail ("no documents match " ++ Text.join ", " patterns)
    | .ok paths => validateAll world config paths

/-- A text without the line ends at its end. -/
def withoutLineEnds (text : String) : String :=
  String.ofList (text.toList.reverse.dropWhile (· == '\n')).reverse

def runDeps (world : World) (arguments : Arguments) : Outcome :=
  world.withResult arguments fun _ result => world.say (withoutLineEnds result.tree)

/-- The topics of a dataflow; a package has none. -/
def topics (result : Compiler.Result) : List Topic :=
  match result.content with
  | .dataflow definition _ => definition.topics
  | .package _ => []

def schemasJson (entries : List Avro.Entry) (subjects : List Avro.Subject) : Json :=
  .object ([("types", Json.listOrNull (entries.map Avro.Entry.toJson))]
    ++ Json.listUnlessEmpty "subjects" (subjects.map Avro.Subject.toJson))

def schemas (exporter : Avro.Exporter) (result : Compiler.Result) :
    Except Avro.ExportError Json := do
  let entries ← exporter.entries
  let subjects ← exporter.subjects (topics result)
  return schemasJson entries subjects

def runAvro (world : World) (arguments : Arguments) : Outcome :=
  world.withResult arguments fun config result =>
    let given := arguments.text "namespace"
    let owner := if given.isEmpty then config.avroNamespace else given
    match schemas (Avro.Exporter.make result.scope owner) result with
    | .error error => world.fail error.message
    | .ok json => world.say (json.indented 0)

def runInspect (world : World) (arguments : Arguments) : Outcome :=
  world.withResult arguments fun _ result => world.say result.toJson.compact

/-- Runs a command; arguments that it does not know end with its help. -/
def execute (world : World) (command : Command) (arguments : List String) : Outcome :=
  match parseFlags command.flags arguments [] with
  | none => world.tell 1 command.help
  | some arguments => match command with
    | .generate => runGenerate world arguments
    | .validate => runValidate world arguments
    | .deps => runDeps world arguments
    | .avro => runAvro world arguments
    | .inspect => runInspect world arguments

/-! ### The command line -/

/-- What the arguments ask for, before the command sees its own. -/
structure Invocation where
  asksHelp : Bool := false
  asksVersion : Bool := false
  strayFlags : Bool := false
  command : Option (String × List String) := none
deriving Repr, DecidableEq, Inhabited

/-- Reads arguments up to two hyphens alone. The first that is no flag names the command. -/
def Invocation.ofArguments : List String → Invocation → Invocation
  | [], invocation => invocation
  | argument :: rest, invocation =>
    if argument == "--" then invocation
    else if ["-h", "-help", "--help"].contains argument then
      ofArguments rest { invocation with asksHelp := true }
    else if invocation.command.isSome || argument.isEmpty then ofArguments rest invocation
    else if ["-v", "-version", "--version"].contains argument then
      ofArguments rest { invocation with asksVersion := true }
    else if argument.toList.head? = some '-' then
      ofArguments rest { invocation with strayFlags := true }
    else ofArguments rest { invocation with command := some (argument, rest) }

/-- The commands that are listed for a name that is none: all of them, unless the name has several
words. -/
def listedFor (name : String) : List Command :=
  let trimmed := (name.toList.reverse.dropWhile (· == ' ')).reverse
  if trimmed.contains ' ' then [] else all

def strayFlagsHelp : String :=
  "Invalid flags before the subcommand. If these flags are for\n"
    ++ "the subcommand, please put them after the subcommand.\n\n"

/-- Runs the command line. -/
def run (world : World) (arguments : List String) : Outcome :=
  let invocation := Invocation.ofArguments arguments {}
  if invocation.asksVersion then world.tell 0 version
  else match invocation.command with
    | none => world.tell (if invocation.asksHelp then 0 else 127) (overview all)
    | some (name, rest) => match ofName? name with
      | none => world.tell 127 (overview (listedFor name))
      | some command =>
        if invocation.asksHelp then world.tell 0 command.help
        else if invocation.strayFlags then world.tell 1 (strayFlagsHelp ++ command.help)
        else execute world command rest

end FlowSpec.Command
