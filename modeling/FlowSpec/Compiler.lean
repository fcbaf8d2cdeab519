import FlowSpec.Digest
import FlowSpec.Inference
import FlowSpec.Package.Function
import FlowSpec.Package.Loader
import FlowSpec.Package.Tree
import FlowSpec.Validation.Document
import FlowSpec.Wit.Generate

/-!
Compilation of documents: imports are fetched and resolved, the document is validated in its scope,
states are resolved, and the types of services are inferred. The first stage that fails ends it.
-/

set_option autoImplicit false

namespace FlowSpec.Compiler

/-- What a document was expected to be. -/
inductive DocumentKind where
  | dataflow
  | package
deriving Repr, DecidableEq, Inhabited

def DocumentKind.name : DocumentKind → String
  | dataflow => "dataflow"
  | package => "package"

inductive Error where
  | unreadable (kind : DocumentKind) (error : FileTree.NotFound)
  | document (error : Document.Error)
  | lowering (error : Lowering.Error)
  | imports (error : Package.Error)
  | scope (error : InvalidStateValue)
  | validation (error : Validation.Error)
  | states (errors : List State.ResolutionError)
  | functionStates (error : State.PackageError)
  | inference (errors : List Inference.Error)
  | inFile (path : String) (cause : Error)
deriving Inhabited

def Error.message : Error → String
  | unreadable kind error => "read " ++ kind.name ++ ": " ++ error.message
  | document error => error.message
  | lowering error => error.message
  | imports error => error.message
  | scope error => error.message
  | validation error => error.message
  | states errors => State.listMessages (errors.map State.ResolutionError.message)
  | functionStates error => error.message
  | inference errors => State.listMessages (errors.map Inference.Error.message)
  | inFile path cause => path ++ ": " ++ cause.message

inductive Content where
  | dataflow (definition : Dataflow) (services : List Inference.ServiceTyping)
  | package (definition : Package)
deriving Repr, Inhabited

/-- A compiled document with the scope it was checked in and the packages it imports. -/
structure Result where
  content : Content
  scope : Scope
  resolution : Package.Resolution
deriving Repr, Inhabited

namespace Result

def packages (result : Result) : List Package := result.resolution.packages

/-- The tree of imports under the document's name. -/
def tree (result : Result) : String :=
  result.resolution.tree (match result.content with
    | .dataflow definition _ => definition.header.name
    | .package definition => definition.header.text)

def services (result : Result) : List Inference.ServiceTyping :=
  match result.content with
  | .dataflow _ services => services
  | .package _ => []

def service? (result : Result) (name : String) : Option Inference.ServiceTyping :=
  result.services.find? fun service => service.name == name

def toJson (result : Result) : Json :=
  .object ((match result.content with
      | .dataflow definition _ => [("dataflow", definition.toJson)]
      | .package definition => [("package", definition.toJson)])
    ++ [("types", .list (result.scope.types.map NamedType.toJson))]
    ++ Json.listUnlessEmpty "services" (result.services.map Inference.ServiceTyping.toJson)
    ++ Json.listUnlessEmpty "dependencies" (result.resolution.order.map Header.toJson))

/-- The fingerprint of a result; equal results have equal ones. -/
def digest (result : Result) : String := Digest.hex result.toJson.compact

end Result

/-! ### Stages -/

/-- The dataflow document of a text. -/
def readDataflow (text : String) : Except Error Document.DataflowDocument := do
  let parsed ← (Document.parseDataflow text).mapError Error.document
  parsed.content.mapError Error.document

/-- The package document of a text. -/
def readPackage (text : String) : Except Error Document.PackageDocument := do
  let parsed ← (Document.parsePackage text).mapError Error.document
  return parsed.document

/-- The dataflow of a text. -/
def lowerDataflow (text : String) : Except Error Dataflow := do
  (Lowering.dataflow (← readDataflow text)).mapError Error.lowering

/-- The package of a text. -/
def lowerPackage (text : String) : Except Error Package := do
  (Lowering.package (← readPackage text)).mapError Error.lowering

/-- A dataflow with its states resolved. -/
def resolveStates (scope : Scope) (dataflow : Dataflow) : Except Error Dataflow :=
  match State.resolveDataflow scope.shape? dataflow with
  | (resolved, []) => .ok resolved
  | (_, errors) => .error (.states errors)

/-- A package with its states resolved. -/
def resolvePackageStates (scope : Scope) (package : Package) : Except Error Package :=
  match State.resolvePackage scope.shape? package with
  | (resolved, none) => .ok resolved
  | (_, some error) => .error (.functionStates error)

/-- Everything behind the fetching of a dataflow's imports. -/
def finishDataflow (dataflow : Dataflow) (packages : List Package) : Except Error Result := do
  let (dataflow, resolution) ← (Package.resolveDataflow dataflow packages).mapError Error.imports
  let scope ← dataflow.scope.mapError Error.scope
  (Validation.validateDataflow scope dataflow).mapError Error.validation
  let dataflow ← resolveStates scope dataflow
  let services ← (Inference.inferAll dataflow).mapError Error.inference
  return { content := .dataflow dataflow services, scope, resolution }

/-- Everything behind the fetching of a package's imports. -/
def finishPackage (package : Package) (packages : List Package) : Except Error Result := do
  let (package, resolution) ← (Package.resolvePackage package packages).mapError Error.imports
  let scope ← package.scope.mapError Error.scope
  (Validation.validatePackage scope package).mapError Error.validation
  let package ← resolvePackageStates scope package
  return { content := .package package, scope, resolution }

/-! ### Documents -/

/-- Compiling reads packages, which are remembered. -/
abbrev Compile := ExceptT Error (StateM Package.Loader)

/-- Fetches what imports lead to, from a folder. -/
def fetch (folder : String) (imports development : List Import) (useDevelopment : Bool) :
    Compile (List Package × List Import) := fun loader =>
  let (outcome, loader) := (Package.fetch folder imports development useDevelopment).run loader
  (outcome.mapError Error.imports, loader)

/-- Compiles a dataflow whose imports are found from a folder. -/
def compileDataflowDocument (useDevelopment : Bool) (folder : String)
    (document : Document.DataflowDocument) : Compile Result := do
  let dataflow ← (Lowering.dataflow document).mapError Error.lowering
  let (packages, imports) ←
    fetch folder dataflow.imports dataflow.developmentImports useDevelopment
  finishDataflow { dataflow with imports } packages

/-- Compiles a package whose imports are found from a folder. -/
def compilePackageDocument (useDevelopment : Bool) (folder : String)
    (document : Document.PackageDocument) : Compile Result := do
  let package ← (Lowering.package document).mapError Error.lowering
  let (packages, imports) ←
    fetch folder package.imports package.developmentImports useDevelopment
  finishPackage { package with imports } packages

def compileDataflowText (useDevelopment : Bool) (folder text : String) : Compile Result := do
  compileDataflowDocument useDevelopment folder (← readDataflow text)

def compilePackageText (useDevelopment : Bool) (folder text : String) : Compile Result := do
  compilePackageDocument useDevelopment folder (← readPackage text)

/-- Compiles a file; its errors are told with its path. -/
def compileFile (kind : DocumentKind) (compileText : String → String → Compile Result)
    (path : String) : Compile Result := do
  match (← get).tree.read path with
  | .error error => throw (.unreadable kind error)
  | .ok text => fun loader =>
    let (outcome, loader) := (compileText (Path.parent path) text).run loader
    (outcome.mapError (Error.inFile path), loader)

def compileDataflow (useDevelopment : Bool) (path : String) : Compile Result :=
  compileFile .dataflow (compileDataflowText useDevelopment) path

def compilePackage (useDevelopment : Bool) (path : String) : Compile Result :=
  compileFile .package (compilePackageText useDevelopment) path

/-- A path leads to a package if it ends in the name of package files. -/
def isPackage (packageFile path : String) : Bool := Path.base path == packageFile

/-- Compiles a file as what its name says it is. -/
def compile (useDevelopment : Bool) (path : String) : Compile Result := do
  if isPackage (← get).file path then compilePackage useDevelopment path
  else compileDataflow useDevelopment path

/-! ### Interfaces -/

/-- Only packages have interfaces. -/
inductive InterfaceError where
  | notPackage
  | collision (error : Wit.Collision)
deriving Repr, DecidableEq, Inhabited

def InterfaceError.message : InterfaceError → String
  | notPackage => "interface generation requires a package"
  | collision error => error.message

/-- The interface description of a compiled package. -/
def Result.interface (result : Result) : Except InterfaceError Wit.Description :=
  match result.content with
  | .dataflow .. => .error .notPackage
  | .package definition => (Wit.describe definition result.scope).mapError InterfaceError.collision

end FlowSpec.Compiler
