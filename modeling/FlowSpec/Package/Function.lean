import FlowSpec.Package.Resolution
import FlowSpec.Path

/-!
Imported functions. A step that calls one takes over the signature that the package declares, and
the states the function uses join the pool of the service.
-/

set_option autoImplicit false

namespace FlowSpec.Package

/-- The import that provides a function; a function with an alias is known by its alias only. -/
def importForFunction (uses : String) : List Import → Except Error (Import × FunctionImport)
  | [] => .error (.unknownFunction uses)
  | self :: rest =>
    match self.function? uses with
    | some function => if self.path.isEmpty then .error .pathRequired else .ok (self, function)
    | none => importForFunction uses rest

/-- Follows an import to the package that declares the function. Each step goes to a package that
the one before imports, so there are no more steps than packages. -/
def findFunction (packages : List Package) : Nat → String → String → List Import →
    Except Error Operation
  | 0, _, uses, _ => .error (.unknownFunction uses)
  | fuel + 1, place, uses, imports => do
    let (self, function) ← importForFunction uses imports
    match find? self.package packages with
    | none => throw (.missing self.package.key "")
    | some package =>
      let path := Path.join [place, self.path]
      match package.function? function.name with
      | some found =>
        let imported :=
          { package := self.package, name := function.name, asName := function.asName, path }
        return { found with step := { found.step with imported := some imported } }
      | none => findFunction packages fuel path function.name package.imports

/-- The function that a step calls through imports. -/
def importedFunction (uses : String) (imports : List Import) (packages : List Package) :
    Except Error Operation :=
  findFunction packages (packages.length + 1) "." uses imports

/-- A step as its imported function declares it; the states of the function join the pool. -/
def adoptStep (service : String) (imports : List Import) (packages : List Package)
    (operator : Operator) (step : Step) : StateT (List PoolState) (Except Error) Step := do
  if !imports.any fun self => (self.function? step.uses).isSome then return step
  match importedFunction step.uses imports packages with
  | .error error => throw (.inService service error)
  | .ok function =>
    if function.operator ≠ operator then
      throw (.operator step.uses operator function.operator)
    let (pool, error) := State.inject service (← get) function.step.states
    set pool
    match error with
    | some error => throw (.injection error)
    | none =>
      return { step with inputs := function.step.inputs, output := function.step.output,
                         states := function.step.states, imported := function.step.imported }

/-- Adopts every imported function of a service. -/
def adoptFunctions (imports : List Import) (packages : List Package) (service : Service) :
    Except Error Service := do
  let (adopted,
      states) ← (service.visitSteps (adoptStep service.name imports packages)).run service.states
  return { adopted with states }

/-- A package with its imports resolved. -/
def resolvePackage (package : Package) (packages : List Package) :
    Except Error (Package × Resolution) := do
  let resolution ← resolve package.imports packages
  return (← merge package resolution.packages, resolution)

/-- A dataflow with its imports resolved: types are merged, and functions are adopted. -/
def resolveDataflow (dataflow : Dataflow) (packages : List Package) :
    Except Error (Dataflow × Resolution) := do
  let resolution ← resolve dataflow.imports packages
  let (types, _) ← mergeTypesAndStates dataflow.types [] dataflow.imports resolution.packages
  let services ← dataflow.services.mapM (adoptFunctions dataflow.imports resolution.packages)
  return ({ dataflow with types, services }, resolution)

end FlowSpec.Package
