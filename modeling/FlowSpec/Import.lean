import FlowSpec.Header
import FlowSpec.Text.Order

/-!
Imports: what a document takes from another package. Two imports of one package can be merged; the
lists of the merged import are sorted and hold nothing twice.
-/

set_option autoImplicit false

namespace FlowSpec

/-- A function of another package, which may have another name here. -/
structure FunctionImport where
  name : String
  asName : String := ""
deriving Repr, DecidableEq, Inhabited

/-- The name that steps call the function by. -/
def FunctionImport.localName (function : FunctionImport) : String :=
  if function.asName.isEmpty then function.name else function.asName

structure Import where
  package : Header
  path : String := ""
  types : List String := []
  states : List String := []
  functions : List FunctionImport := []
deriving Repr, DecidableEq, Inhabited

namespace Import

def mergeNames (a b : List String) : List String := Text.dropRepeats (Text.sortNames (a ++ b))

/-- By name, then by alias. -/
def functionBefore (a b : FunctionImport) : Bool :=
  a.name < b.name || (a.name == b.name && a.asName ≤ b.asName)

def mergeFunctions (a b : List FunctionImport) : List FunctionImport :=
  Text.dropRepeats ((a ++ b).mergeSort functionBefore)

/-- Adds the names that another import lists. -/
def merge (self other : Import) : Import :=
  { self with
    types := mergeNames self.types other.types
    states := mergeNames self.states other.states
    functions := mergeFunctions self.functions other.functions }

/-- The imported function that steps call by a name. -/
def function? (self : Import) (uses : String) : Option FunctionImport :=
  self.functions.find? fun function => function.localName == uses

/-- The path of the last development import of the same package that has one. -/
def developmentPath (development : List Import) (self : Import) : String :=
  development.foldl (fun path other =>
    if other.package = self.package && other.path ≠ "" then other.path else path) self.path

/-- Imports with the paths used during development, if it is on. -/
def effective (imports development : List Import) (useDevelopment : Bool) : List Import :=
  if useDevelopment then
    imports.map fun self => { self with path := developmentPath development self }
  else imports

end Import

def FunctionImport.toJson (function : FunctionImport) : Json :=
  .object ([("name", .text function.name)] ++ Json.textUnlessEmpty "alias" function.asName)

def Import.toJson (self : Import) : Json :=
  .object ([("metadata", self.package.toJson)] ++ Json.textUnlessEmpty "path" self.path
    ++ Json.listUnlessEmpty "types" (self.types.map Json.text)
    ++ Json.listUnlessEmpty "states" (self.states.map Json.text)
    ++ Json.listUnlessEmpty "functions" (self.functions.map FunctionImport.toJson))

end FlowSpec
