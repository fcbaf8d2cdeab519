import FlowSpec.Wit.Functions

/-!
The interface description of a package: a world of everything it exports, the shared types, and the
interfaces of each function with worlds for reading and writing.
-/

set_option autoImplicit false

namespace FlowSpec.Wit

inductive Error where
  | collision (cause : Collision)
  | stateValue (error : InvalidStateValue)
deriving Repr, DecidableEq, Inhabited

def Error.message : Error → String
  | collision cause => cause.message
  | stateValue error => error.message

/-- The names of function services, which must differ. -/
def serviceNames : List Operation → List (String × String) → Except Collision (List String)
  | [], _ => .ok []
  | function :: rest, owners => do
    let uses := function.step.uses
    let name := serviceName uses
    match owners.lookup name with
    | some owner => .error { kind := "function", identifier := name, newcomer := uses, owner }
    | none => return name :: (← serviceNames rest ((name, uses) :: owners))

/-- An interface with a world that exports it. -/
def withWorld (interface : Interface) : List Item :=
  [.interface interface, .world { name := interface.name ++ "-world", exports := [interface.name] }]

def functionItems (function : Operation) : List Item :=
  .interface (serviceInterface function.operator function.step)
    :: withWorld (deserializeInterface function.step)
    ++ ((serializeInterface function.step).map withWorld).getD []

/-- Describes a package against its scope. -/
def describe (package : Package) (scope : Scope) : Except Collision Description := do
  let services ← serviceNames package.functions []
  let types ← typesInterface scope
  return {
    owner := normalName package.header.owner
    name := normalName package.header.name
    items := .world { name := "default-world", exports := typesName :: services }
      :: .interface types :: package.functions.flatMap functionItems }

/-- Describes a package against the scope that it declares itself. -/
def describePackage (package : Package) : Except Error Description := do
  match package.scope with
  | .error error => .error (.stateValue error)
  | .ok scope => (describe package scope).mapError Error.collision

end FlowSpec.Wit
