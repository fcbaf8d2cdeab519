import FlowSpec.Type.Shape

/-!
States: keyed states with names, the entries of a service's pool, and the states that steps use. The
value of a keyed state is settled once by looking up the type it names.
-/

set_option autoImplicit false

namespace FlowSpec

/-- A keyed state with its name. -/
structure TypedState where
  name : String
  type : KeyedState
deriving Repr, DecidableEq, Inhabited

/-- A state whose value has a type that no state can hold. -/
structure InvalidStateValue where
  state : String
deriving Repr, DecidableEq, Inhabited

def InvalidStateValue.message (error : InvalidStateValue) : String :=
  "state `" ++ error.state ++ "`: invalid type for keyed state value"

namespace TypedState

/-- The shape that a value's type name stands for: a declaration, else a primitive. -/
def valueShape (lookup : String → Option Shape) (name : String) : Option Shape :=
  (lookup name).orElse fun _ => (Primitive.ofName? name).map Shape.primitive

/-- Settles a value by the type it names. A name that is not known is left for validation to
report. -/
def resolve (lookup : String → Option Shape) (state : TypedState) :
    Except InvalidStateValue TypedState :=
  match state.type.value with
  | .unresolved name =>
    match valueShape lookup name with
    | none => .ok state
    | some (.primitive .u32) => .ok { state with type := { state.type with value := .u32 } }
    | some (.row columns) => .ok { state with type := { state.type with value := .row columns } }
    | some _ => .error ⟨state.name⟩
  | _ => .ok state

end TypedState

/-- The target of a reference to another service's state. -/
structure StateTarget where
  service : String
  state : String
deriving Repr, DecidableEq, Inhabited

def StateTarget.text (target : StateTarget) : String := target.service ++ "." ++ target.state

/-- What a name of a service's pool stands for: a state of its own, a reference, which is typed once
it has been followed, or a state of the system. -/
inductive StateSource where
  | owned (typed : Option TypedState)
  | reference (target : Option StateTarget) (typed : Option TypedState)
  | system (kind : String)
deriving Repr, DecidableEq, Inhabited

/-- One entry of a service's pool. -/
structure PoolState where
  name : String
  source : StateSource
deriving Repr, DecidableEq, Inhabited

/-- The typed state behind an entry. -/
def PoolState.typed (state : PoolState) : Option TypedState :=
  match state.source with
  | .owned typed => typed
  | .reference _ typed => typed
  | .system _ => none

/-- A state that a step uses, and the typed state that it was resolved to. -/
structure StepState where
  name : String
  resolved : Option TypedState := none
deriving Repr, DecidableEq, Inhabited

/-! ### Encoding -/

def TypedState.toJson (state : TypedState) : Json :=
  .object [("name", .text state.name), ("type", state.type.toJson)]

def StateTarget.toJson (target : StateTarget) : Json :=
  .object [("service", .text target.service), ("state", .text target.state)]

def PoolState.toJson (state : PoolState) : Json :=
  .object (match state.source with
    | .owned typed => [("kind", .int 0), ("name", .text state.name)]
      ++ Json.memberIfSome "typed" typed TypedState.toJson
    | .reference target typed => [("kind", .int 1), ("name", .text state.name)]
      ++ Json.memberIfSome "typed" typed TypedState.toJson
      ++ Json.memberIfSome "ref" target StateTarget.toJson
    | .system kind => [("kind", .int 2), ("name", .text state.name)]
      ++ Json.textUnlessEmpty "system" kind)

def StepState.toJson (state : StepState) : Json :=
  .object ([("name", .text state.name)] ++
      Json.memberIfSome "resolved" state.resolved TypedState.toJson)

end FlowSpec
