import FlowSpec.Import
import FlowSpec.Schedule
import FlowSpec.Service

/-! Dataflows and packages as the compiler sees them: every type has a name, and every list is in
order. -/

set_option autoImplicit false

namespace FlowSpec

/-- The type of a topic's keys or values, and how they are converted. -/
structure Encoding where
  type : String
  converter : String
deriving Repr, DecidableEq, Inhabited

/-- A stream of messages. -/
structure Topic where
  id : String
  name : String
  key : Option Encoding := none
  value : Encoding
deriving Repr, DecidableEq, Inhabited

structure Dataflow where
  apiVersion : String
  header : Header
  imports : List Import := []
  types : List NamedType := []
  topics : List Topic := []
  services : List Service := []
  schedules : List Schedule := []
  developmentImports : List Import := []
deriving Repr, DecidableEq, Inhabited

structure Package where
  apiVersion : String
  header : Header
  imports : List Import := []
  types : List NamedType := []
  states : List TypedState := []
  functions : List Operation := []
  developmentImports : List Import := []
deriving Repr, DecidableEq, Inhabited

namespace Dataflow

def topic? (dataflow : Dataflow) (id : String) : Option Topic :=
  dataflow.topics.find? fun topic => topic.id == id

def service? (dataflow : Dataflow) (name : String) : Option Service :=
  dataflow.services.find? fun service => service.name == name

def schedule? (dataflow : Dataflow) (name : String) : Option Schedule :=
  dataflow.schedules.find? fun schedule => schedule.name == name

end Dataflow

namespace Package

def function? (package : Package) (name : String) : Option Operation :=
  package.functions.find? fun function => function.step.uses == name

def state? (package : Package) (name : String) : Option TypedState :=
  package.states.find? fun state => state.name == name

def type? (package : Package) (name : String) : Option NamedType :=
  package.types.find? fun type => type.name == name

end Package

/-! ### Encoding -/

def Encoding.toJson (encoding : Encoding) : Json :=
  .object [("type", typeRef encoding.type), ("converter", .text encoding.converter)]

def Topic.toJson (topic : Topic) : Json :=
  .object [("id", .text topic.id), ("name", .text topic.name),
    ("schema", .object (Json.memberIfSome "key" topic.key Encoding.toJson
      ++ [("value", topic.value.toJson)]))]

def Schedule.toJson (schedule : Schedule) : Json :=
  .object [("name", .text schedule.name), ("cron", .text schedule.cron)]

def Dataflow.toJson (dataflow : Dataflow) : Json :=
  .object ([("apiVersion", .text dataflow.apiVersion), ("meta", dataflow.header.toJson)]
    ++ Json.listUnlessEmpty "imports" (dataflow.imports.map Import.toJson)
    ++ [("types", .list (dataflow.types.map NamedType.toJson)),
      ("topics", Json.listOrNull (dataflow.topics.map Topic.toJson)),
      ("services", Json.listOrNull (dataflow.services.map Service.toJson))]
    ++ Json.listUnlessEmpty "schedules" (dataflow.schedules.map Schedule.toJson)
    ++ Json.listUnlessEmpty "devImports" (dataflow.developmentImports.map Import.toJson))

def Package.toJson (package : Package) : Json :=
  .object ([("apiVersion", .text package.apiVersion), ("meta", package.header.toJson)]
    ++ Json.listUnlessEmpty "imports" (package.imports.map Import.toJson)
    ++ [("types", .list (package.types.map NamedType.toJson))]
    ++ Json.listUnlessEmpty "states" (package.states.map TypedState.toJson)
    ++ [("functions", Json.listOrNull (package.functions.map Operation.toJson))]
    ++ Json.listUnlessEmpty "devImports" (package.developmentImports.map Import.toJson))

end FlowSpec
