import FlowSpec.Package.Error
import FlowSpec.Scope

/-!
Merging of imported types and states. Every imported type brings along the types that it mentions. A
name that is there already must have the same definition.
-/

set_option autoImplicit false

namespace FlowSpec.Package

/-- The package with exactly this header. -/
def find? (header : Header) (packages : List Package) : Option Package :=
  packages.find? fun package => package.header = header

/-- The types a state depends on; a settled value carries its definition with it. -/
def stateReferences (state : TypedState) : List String :=
  Shape.references (.keyedState state.type)

/-- Adds imported types to declarations. -/
def insertTree (package : String) :
    Declarations → List NamedType → Except Error Declarations
  | declarations, [] => .ok declarations
  | declarations, type :: rest =>
    match declarations.replaced? type.name with
    | none => insertTree package (declarations.insert { type with origin := .imported }) rest
    | some previous =>
      if previous.shape = type.shape then insertTree package declarations rest
      else .error (.typeConflict type.name package)

/-- What has been merged so far. States that occur again are compared when all values are
settled. -/
structure Merging where
  declarations : Declarations
  states : List TypedState := []
  repeated : List TypedState := []
deriving Repr, DecidableEq, Inhabited

namespace Merging

def addState (merging : Merging) (state : TypedState) : Merging :=
  if merging.states.any fun other => other.name == state.name then
    { merging with repeated := merging.repeated ++ [state] }
  else { merging with states := merging.states ++ [state] }

def addTrees (merging : Merging) (scope : Scope) (package : String) (names : List String) :
    Except Error Merging := do
  let declarations ← names.foldlM (fun declarations name =>
    insertTree package declarations (scope.tree name)) merging.declarations
  return { merging with declarations }

def importState (scope : Scope) (source : Package) (merging : Merging) (name : String) :
    Except Error Merging :=
  match source.state? name with
  | none => .error (.unknownState name source.header.name)
  | some state => do
    let merging ← merging.addTrees scope source.header.name (stateReferences state)
    return merging.addState state

/-- Merges what one import names. -/
def importFrom (packages : List Package) (merging : Merging) (self : Import) :
    Except Error Merging :=
  match find? self.package packages with
  | none => .error (.missing self.package.key "")
  | some source =>
    match source.scope with
    | .error cause => .error (.scope source.header cause)
    | .ok scope => do
      let merging ← merging.addTrees scope source.header.name self.types
      self.states.foldlM (importState scope source) merging

/-- Settles all values and compares the states that occur again with those of their name. -/
def finish (merging : Merging) : Except Error (List NamedType × List TypedState) := do
  let scope ← merging.declarations.toScope.mapError Error.stateValue
  let settle (state : TypedState) : Except Error TypedState :=
    (state.resolve scope.shape?).mapError Error.stateValue
  let states ← merging.states.mapM settle
  merging.repeated.forM fun state => do
    let state ← settle state
    if states.find? (fun other => other.name == state.name) ≠ some state then
      throw (.stateConflict state.name)
  return (scope.types, states)

end Merging

/-- The types and states of a document with those that its imports name. -/
def mergeTypesAndStates (types : List NamedType) (states : List TypedState) (imports : List Import)
    (packages : List Package) : Except Error (List NamedType × List TypedState) := do
  let start : Merging := { declarations := ({} : Declarations).insertAll types }
  let merging ← imports.foldlM (Merging.importFrom packages) (states.foldl Merging.addState start)
  merging.finish

/-- A package with what it imports from resolved packages, and the states of its functions
resolved. -/
def merge (package : Package) (children : List Package) : Except Error Package := do
  let (types, states) ← mergeTypesAndStates package.types package.states package.imports children
  let merged := { package with types, states }
  let scope ← merged.scope.mapError Error.stateValue
  match State.resolvePackage scope.shape? merged with
  | (resolved, none) => return resolved
  | (_, some error) => throw (.resolution error)

end FlowSpec.Package
