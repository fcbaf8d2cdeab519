import FlowSpec.Step

/-!
Services: sources, a block of transforms, a window or a partition, and sinks, with a pool of states.
The steps of a service have one order, in which they are listed, visited and changed.
-/

set_option autoImplicit false

namespace FlowSpec

/-- A redistribution by key. -/
structure Partition where
  assignKey : Step
  transforms : List Operation := []
  updateState : Option Step := none
deriving Repr, DecidableEq, Inhabited

/-- The sizes of a window, in milliseconds. -/
inductive WindowSize where
  | tumbling (duration offset : Nat)
  | sliding (duration offset slide : Nat)
deriving Repr, DecidableEq, Inhabited

/-- A grouping by time. -/
structure Window where
  size : WindowSize
  idleness : Option Nat := none
  gracePeriod : Option Nat := none
  assignTimestamp : Step
  transforms : List Operation := []
  partition : Option Partition := none
  flush : Option Step := none
deriving Repr, DecidableEq, Inhabited

namespace WindowSize

/-- The time from one window's opening to the next one's. -/
def interval : WindowSize → Nat
  | tumbling duration _ => duration
  | sliding _ _ slide => slide

def offset : WindowSize → Nat
  | tumbling _ offset => offset
  | sliding _ offset _ => offset

end WindowSize

/-- What a source or sink is. -/
inductive EndpointKind where
  | topic
  | schedule
  | noTarget
  | other (name : String)
deriving Repr, DecidableEq, Inhabited

namespace EndpointKind

def name : EndpointKind → String
  | topic => "topic"
  | schedule => "schedule"
  | noTarget => "no-target"
  | other name => name

def ofName (name : String) : EndpointKind :=
  if name == "topic" then topic
  else if name == "schedule" then schedule
  else if name == "no-target" then noTarget
  else other name

end EndpointKind

/-- A source or sink of a service. -/
structure Endpoint where
  kind : EndpointKind
  id : String := ""
  transforms : List Operation := []
deriving Repr, DecidableEq, Inhabited

structure Service where
  name : String
  sources : List Endpoint := []
  sinks : List Endpoint := []
  transforms : List Operation := []
  window : Option Window := none
  partition : Option Partition := none
  states : List PoolState := []
deriving Repr, DecidableEq, Inhabited

namespace Partition

def operations (partition : Partition) : List Operation :=
  ⟨.assignKey, partition.assignKey⟩ :: partition.transforms
    ++ (partition.updateState.map (Operation.mk .updateState)).toList

end Partition

namespace Window

def operations (window : Window) : List Operation :=
  ⟨.assignTimestamp, window.assignTimestamp⟩ :: window.transforms
    ++ (window.partition.map Partition.operations).getD []
    ++ (window.flush.map (Operation.mk .aggregate)).toList

end Window

namespace Service

def state? (service : Service) (name : String) : Option PoolState :=
  service.states.find? fun state => state.name == name

/-- Every operation of the service, in the order of the pipeline. -/
def operations (service : Service) : List Operation :=
  service.sources.flatMap Endpoint.transforms ++ service.transforms
    ++ (service.window.map Window.operations).getD []
    ++ (service.partition.map Partition.operations).getD []
    ++ service.sinks.flatMap Endpoint.transforms

end Service

/-! ### Changing the steps -/

section Visit

variable {m : Type → Type} [Monad m] (visit : Operator → Step → m Step)

def visitOperations (operations : List Operation) : m (List Operation) :=
  operations.mapM fun operation => do
    return { operation with step := ← visit operation.operator operation.step }

def visitOptional (operator : Operator) : Option Step → m (Option Step)
  | some step => do return some (← visit operator step)
  | none => return none

def Partition.visitSteps (partition : Partition) : m Partition := do
  let assignKey ← visit .assignKey partition.assignKey
  let transforms ← visitOperations visit partition.transforms
  let updateState ← visitOptional visit .updateState partition.updateState
  return { assignKey, transforms, updateState }

def Window.visitSteps (window : Window) : m Window := do
  let assignTimestamp ← visit .assignTimestamp window.assignTimestamp
  let transforms ← visitOperations visit window.transforms
  let partition ← window.partition.mapM (Partition.visitSteps visit)
  let flush ← visitOptional visit .aggregate window.flush
  return { window with assignTimestamp, transforms, partition, flush }

def Endpoint.visitSteps (endpoint : Endpoint) : m Endpoint := do
  return { endpoint with transforms := ← visitOperations visit endpoint.transforms }

/-- Replaces every step of the service, in the order of `operations`. -/
def Service.visitSteps (service : Service) : m Service := do
  let sources ← service.sources.mapM (Endpoint.visitSteps visit)
  let transforms ← visitOperations visit service.transforms
  let window ← service.window.mapM (Window.visitSteps visit)
  let partition ← service.partition.mapM (Partition.visitSteps visit)
  let sinks ← service.sinks.mapM (Endpoint.visitSteps visit)
  return { service with sources, transforms, window, partition, sinks }

end Visit

/-! ### Encoding -/

def operationsJson (operations : List Operation) : List (String × Json) :=
  Json.listUnlessEmpty "transforms" (operations.map Operation.toJson)

def Partition.toJson (partition : Partition) : Json :=
  .object ([("assignKey", partition.assignKey.toJson)] ++ operationsJson partition.transforms
    ++ Json.memberIfSome "updateState" partition.updateState Step.toJson)

def WindowSize.toJson : WindowSize → Json
  | tumbling duration offset =>
    .object [("kind", .int 0), ("durationMs", .int duration), ("offsetMs", .int offset)]
  | sliding duration offset slide =>
    .object ([("kind", .int 1), ("durationMs", .int duration), ("offsetMs", .int offset)]
      ++ if slide = 0 then [] else [("slideMs", .int slide)])

def Window.toJson (window : Window) : Json :=
  .object ([("properties", window.size.toJson),
      ("watermark", .object (Json.memberIfSome "idlenessMs" window.idleness (Json.int ·)
        ++ Json.memberIfSome "gracePeriodMs" window.gracePeriod (Json.int ·))),
      ("assignTimestamp", window.assignTimestamp.toJson)]
    ++ operationsJson window.transforms
    ++ Json.memberIfSome "partition" window.partition Partition.toJson
    ++ Json.memberIfSome "flush" window.flush Step.toJson)

def Endpoint.toJson (endpoint : Endpoint) : Json :=
  .object ([("type", .text endpoint.kind.name), ("id", .text endpoint.id)]
    ++ operationsJson endpoint.transforms)

def Service.toJson (service : Service) : Json :=
  .object ([("name", .text service.name),
      ("sources", .list (service.sources.map Endpoint.toJson)),
      ("sinks", .list (service.sinks.map Endpoint.toJson))]
    ++ operationsJson service.transforms
    ++ Json.memberIfSome "window" service.window Window.toJson
    ++ Json.memberIfSome "partition" service.partition Partition.toJson
    ++ Json.listUnlessEmpty "states" (service.states.map PoolState.toJson))

end FlowSpec
