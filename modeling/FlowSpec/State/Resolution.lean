import FlowSpec.Definition
import FlowSpec.Scope
import FlowSpec.Text.Distance

/-!
Resolution of states. The values of owned states are settled first, then references take the typed
states they point at, then the states of steps are found in the pool of their service. What was
resolved before an error is kept.
-/

set_option autoImplicit false

namespace FlowSpec.State

/-- Why a state could not be tied to a definition. -/
inductive ErrorKind where
  | undefinedReference
  | unresolvedStep
  | conflict
  | notResolved
  | invalidValue (cause : InvalidStateValue)
deriving Repr, DecidableEq, Inhabited

/-- A state that could not be resolved, with the service it is used in. -/
structure ResolutionError where
  kind : ErrorKind
  service : String := ""
  state : String
  suggestion : String := ""
deriving Repr, DecidableEq, Inhabited

def ResolutionError.message (error : ResolutionError) : String :=
  (match error.kind with
    | .undefinedReference =>
      "State with name " ++ error.state ++ " is referenced in service " ++ error.service
        ++ " but not defined in the dataflow"
    | .unresolvedStep => "Could not resolve state: " ++ error.state
    | .conflict => "state " ++ error.state ++ " is already defined"
    | .notResolved => "state " ++ error.state ++ " is not resolved"
    | .invalidValue cause => cause.message)
    ++ if error.suggestion.isEmpty then "" else "; did you mean `" ++ error.suggestion ++ "`?"

def suggestion (name : String) (candidates : List String) : String :=
  (Text.suggest name candidates).getD ""

/-- Several errors told together. -/
def listMessages (messages : List String) : String :=
  toString messages.length ++ (if messages.length = 1 then " error"
      else " errors") ++ " occurred:\n\t"
    ++ Text.join "\n\t" (messages.map fun message => "* " ++ message) ++ "\n\n"

/-! ### Pools -/

/-- The typed states of a pool: its own, and references that have been followed. -/
def typedStates (pool : List PoolState) : List TypedState := pool.filterMap PoolState.typed

/-- Settles the values of owned states up to the first that has none. -/
def resolveOwned (lookup : String → Option Shape) (service : String) :
    List PoolState → List PoolState × Option ResolutionError
  | [] => ([], none)
  | state :: rest =>
    let next (state : PoolState) : List PoolState × Option ResolutionError :=
      let (rest, error) := resolveOwned lookup service rest
      (state :: rest, error)
    match state.source with
    | .owned (some typed) =>
      match typed.resolve lookup with
      | .ok typed => next { state with source := .owned (some typed) }
      | .error cause =>
        (state :: rest, some { kind := .invalidValue cause, service, state := state.name })
    | _ => next state

/-- The owned state that a reference points at. -/
def ownedState? (dataflow : Dataflow) (target : StateTarget) : Option TypedState :=
  match (dataflow.service? target.service).bind fun service => service.state? target.state with
  | some { source := .owned typed, .. } => typed
  | _ => none

/-- All owned states of a dataflow, as references write them. -/
def ownedNames (dataflow : Dataflow) : List String :=
  Text.sortNames (dataflow.services.flatMap fun service =>
    service.states.filterMap fun state => match state.source with
      | .owned _ => some (service.name ++ "." ++ state.name)
      | _ => none)

/-- Follows the references of a pool up to the first that points nowhere. -/
def resolveReferences (dataflow : Dataflow) (service : String) :
    List PoolState → List PoolState × Option ResolutionError
  | [] => ([], none)
  | state :: rest =>
    let next (state : PoolState) : List PoolState × Option ResolutionError :=
      let (rest, error) := resolveReferences dataflow service rest
      (state :: rest, error)
    match state.source with
    | .reference (some target) _ =>
      match ownedState? dataflow target with
      | some typed =>
        next
          { state with
            source := .reference (some target) (some { typed with name := state.name }) }
      | none =>
        (state :: rest, some { kind := .undefinedReference, service, state := target.text,
                               suggestion := suggestion target.text (ownedNames dataflow) })
    | _ => next state

/-! ### Steps -/

/-- Finds the states of a step among typed states, up to the first that is missing. States that are
resolved already are kept. -/
def resolveStepStates (states : List TypedState) :
    List StepState → List StepState × Option ResolutionError
  | [] => ([], none)
  | state :: rest =>
    let next (state : StepState) : List StepState × Option ResolutionError :=
      let (rest, error) := resolveStepStates states rest
      (state :: rest, error)
    if state.resolved.isSome then next state
    else match states.find? fun typed => typed.name == state.name with
      | some typed => next { state with resolved := some typed }
      | none =>
        (state :: rest, some { kind := .unresolvedStep, state := state.name,
                               suggestion := suggestion state.name (states.map TypedState.name) })

/-- Resolves a step unless an earlier one has failed. -/
def resolveStep (states : List TypedState) (service : String) (step : Step) :
    StateM (Option ResolutionError) Step := do
  match ← get with
  | some _ => return step
  | none =>
    let (resolved, error) := resolveStepStates states step.states
    set (error.map fun error => { error with service })
    return { step with states := resolved }

/-- Resolves the states of all steps against the service's pool. -/
def resolveSteps (service : Service) : Service × Option ResolutionError :=
  (service.visitSteps fun _ step =>
      resolveStep (typedStates service.states) service.name step).run none

/-! ### Documents -/

/-- Applies a change to every service; the errors are collected. -/
def visitServices (change : Service → Service × Option ResolutionError) (services : List Service) :
    List Service × List ResolutionError :=
  let changed := services.map change
  (changed.map Prod.fst, changed.filterMap Prod.snd)

/-- Applies a change to the pools of services. -/
def visitPools (change : String → List PoolState → List PoolState × Option ResolutionError)
    (services : List Service) : List Service × List ResolutionError :=
  visitServices (fun service =>
    let (states, error) := change service.name service.states
    ({ service with states }, error)) services

/-- Resolves all states of a dataflow. Steps are resolved only if the pools are free of errors. -/
def resolveDataflow (lookup : String → Option Shape) (dataflow : Dataflow) :
    Dataflow × List ResolutionError :=
  let (services, ownedErrors) := visitPools (resolveOwned lookup) dataflow.services
  let (services, referenceErrors) :=
    visitPools (resolveReferences { dataflow with services }) services
  if ownedErrors.isEmpty && referenceErrors.isEmpty then
    let (services, errors) := visitServices resolveSteps services
    ({ dataflow with services }, errors)
  else ({ dataflow with services }, ownedErrors ++ referenceErrors)

/-- An error in a package, with the function it is in. -/
structure PackageError where
  function : Option String := none
  error : ResolutionError
deriving Repr, DecidableEq, Inhabited

def PackageError.message (error : PackageError) : String :=
  (match error.function with
    | some function => "function `" ++ function ++ "`: "
    | none => "") ++ error.error.message

def resolvePackageStates (lookup : String → Option Shape) :
    List TypedState → List TypedState × Option ResolutionError
  | [] => ([], none)
  | state :: rest =>
    match state.resolve lookup with
    | .ok state =>
      let (rest, error) := resolvePackageStates lookup rest
      (state :: rest, error)
    | .error cause => (state :: rest, some { kind := .invalidValue cause, state := state.name })

def resolveFunctions (states : List TypedState) :
    List Operation → List Operation × Option PackageError
  | [] => ([], none)
  | function :: rest =>
    let (resolved, error) := resolveStepStates states function.step.states
    let function := { function with step := { function.step with states := resolved } }
    match error with
    | some error => (function :: rest, some { function := some function.step.uses, error })
    | none =>
      let (rest, error) := resolveFunctions states rest
      (function :: rest, error)

/-- Settles the states of a package and resolves those of its functions against them. -/
def resolvePackage (lookup : String → Option Shape) (package : Package) :
    Package × Option PackageError :=
  match resolvePackageStates lookup package.states with
  | (states, some error) => ({ package with states }, some { error })
  | (states, none) =>
    let (functions, error) := resolveFunctions states package.functions
    ({ package with states, functions }, error)

/-! ### Injection -/

/-- Adds the resolved states of an imported step to a pool, up to the first that clashes. A state
that is there already with the same definition is left alone. -/
def inject (service : String) :
    List PoolState → List StepState → List PoolState × Option ResolutionError
  | pool, [] => (pool, none)
  | pool, state :: rest =>
    match state.resolved with
    | none => (pool, some { kind := .notResolved, service, state := state.name })
    | some typed =>
      match pool.find? fun entry => entry.name == typed.name with
      | some entry =>
        if entry.source = .owned (some typed) then inject service pool rest
        else (pool, some { kind := .conflict, service, state := typed.name })
      | none =>
        inject service (pool ++ [{ name := typed.name, source := .owned (some typed) }]) rest

end FlowSpec.State
