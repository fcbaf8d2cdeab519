import FlowSpec.Definition
import FlowSpec.Document.Entry
import FlowSpec.Lowering.Types

/-! Definitions from documents: types are hoisted, defaults filled in, and mappings put in the order
of keys. -/

set_option autoImplicit false

namespace FlowSpec.Lowering

open Document

/-! ### Steps -/

def liftDuration {α : Type} : Except Duration.Error α → Lower α
  | .ok value => return value
  | .error error => fail (.duration error)

def lowerInput (input : InputEntry) : Parameter :=
  { name := input.name, type := Primitive.normalize input.type, isOptional := input.isOptional,
    isKey := input.kind == "key" }

def lowerOutput (output : OutputEntry) : Output :=
  let pair := if output.type == "key-value" then output.pair else none
  { key := pair.map fun pair => Primitive.normalize pair.key
    value := match pair with
      | some pair => Primitive.normalize pair.value
      | none => Primitive.normalize output.type
    isOptional := output.isOptional, isList := output.isList }

/-- Without `uses` the function is named by the code. -/
def lowerStep (entry : StepEntry) : Lower Step := do
  let code : Code :=
    { source := entry.run, language := if entry.language.isEmpty then "rust" else entry.language,
      dependencies := entry.dependencies }
  let uses := if entry.uses.isEmpty then code.functionName else entry.uses
  if uses.isEmpty then fail .missingFunctionName
  return { uses, code, inputs := entry.inputs.map lowerInput
           output := entry.output.map lowerOutput
           states := entry.states.map fun name => { name } }

def lowerOperation (entry : StepEntry) : Lower Operation := do
  if entry.operator.isEmpty then fail .missingOperator
  match Operator.ofName? entry.operator with
  | none => fail (.unknownOperator entry.operator)
  | some operator =>
    if !operator.isTransform then fail (.notTransform entry.operator)
    return { operator, step := ← lowerStep entry }

/-- Transforms, where `index` counts the steps for messages. -/
def lowerTransforms : Nat → List StepEntry → Lower (List Operation)
  | _, [] => return []
  | index, entry :: rest => do
    let operation ← inContext ("step " ++ toString index) (lowerOperation entry)
    let operations ← lowerTransforms (index + 1) rest
    return operation :: operations

/-! ### Services -/

def lowerPartition (entry : PartitionEntry) : Lower Partition := do
  let assignKey ← inContext "assign-key" (lowerStep entry.assignKey)
  let transforms ← inContext "transforms" (lowerTransforms 0 entry.transforms)
  let updateState ← entry.updateState.mapM fun step => inContext "update-state" (lowerStep step)
  return { assignKey, transforms, updateState }

/-- A length of time that may be left out. -/
def optionalDuration (text : String) : Lower (Option Nat) :=
  if text.isEmpty then return none else some <$> liftDuration (Duration.milliseconds text)

def lowerSize : SizeEntry → Lower WindowSize
  | .tumbling size => do
    let duration ← liftDuration (Duration.milliseconds size.duration)
    let offset ← optionalDuration size.offset
    return .tumbling duration (offset.getD 0)
  | .sliding size => do
    let duration ← liftDuration (Duration.milliseconds size.duration)
    let slide ← liftDuration (Duration.milliseconds size.slide)
    let offset ← optionalDuration size.offset
    return .sliding duration (offset.getD 0) slide

def lowerWindow (entry : WindowEntry) : Lower Window := do
  let size ← lowerSize entry.size
  let watermark := entry.watermark.getD {}
  let idleness ← optionalDuration watermark.idleness
  let gracePeriod ← optionalDuration watermark.gracePeriod
  let assignTimestamp ← inContext "assign-timestamp" (lowerStep entry.assignTimestamp)
  let transforms ← inContext "transforms" (lowerTransforms 0 entry.transforms)
  let partition ← entry.partition.mapM fun partition =>
      inContext "partition" (lowerPartition partition)
  let flush ← entry.flush.mapM fun step => inContext "flush" (lowerStep step)
  return { size, idleness, gracePeriod, assignTimestamp, transforms, partition, flush }

def lowerEndpoint (entry : EndpointEntry) : Lower Endpoint := do
  let transforms ← inContext ("`" ++ entry.id ++ "`") (lowerTransforms 0 entry.transforms)
  return { kind := .ofName entry.kind, id := entry.id, transforms }

def lowerState (isV5 : Bool) (name : String) : StateEntry → Lower StateSource
  | .declared declaration => do
    return .owned (some { name, type := ← keyedStateOf isV5 declaration })
  | .reference text =>
    match Text.split "." text with
    | [service, state] =>
      if service.isEmpty || state.isEmpty then fail (.stateReference text)
      else return .reference (some { service, state }) none
    | _ => fail (.stateReference text)
  | .system kind => return .system kind

def lowerService (isV5 : Bool) (name : String) (entry : ServiceEntry) : Lower Service := do
  let sources ← inContext "sources" (entry.sources.mapM lowerEndpoint)
  let sinks ← inContext "sinks" (entry.sinks.mapM lowerEndpoint)
  let transforms ← inContext "transforms" (lowerTransforms 0 entry.transforms)
  let window ← entry.window.mapM fun window => inContext "window" (lowerWindow window)
  let partition ← entry.partition.mapM fun partition =>
      inContext "partition" (lowerPartition partition)
  let states ← (Text.sortByName Prod.fst entry.states).mapM fun (state, source) => do
    return { name := state,
             source := ← inContext (named "state" state) (lowerState isV5 state source) }
  return { name, sources, sinks, transforms, window, partition, states }

/-! ### Topics -/

def lowerEncoding (converter : String) (entry : EncodingEntry) : Encoding :=
  { type := Primitive.normalize entry.type
    converter := if entry.converter.isEmpty then converter else entry.converter }

def lowerTopic (converter : String) (id : String) (entry : TopicEntry) : Topic :=
  { id, name := if entry.name.isEmpty then id else entry.name
    key := entry.key.map (lowerEncoding converter)
    value := lowerEncoding converter entry.value }

/-- Topics with those of the development section put over them. -/
def effectiveTopics (document : DataflowDocument) : List (String × TopicEntry) :=
  (document.development.getD {}).topics.foldl (fun topics topic =>
    Yaml.putEntry topics topic.1 topic.2) document.topics

/-- The converter of topics that name none. Where the development section has topics, its converter
comes first. -/
def defaultConverter (document : DataflowDocument) : String :=
  let development := document.development.getD {}
  let defaults := (document.defaults.getD {}).converter
  if !development.topics.isEmpty && development.converter ≠ "" then development.converter
  else if defaults.isEmpty then "json"
  else defaults

/-! ### Documents -/

/-- Runs on an empty table and also gives the types that were hoisted. -/
def runLower {α : Type} (action : Lower α) : Except Error (α × List NamedType) :=
  (action.run []).map fun (value, table) => (value, table.types)

def parseVersion (text : String) : Except Error ApiVersion :=
  (ApiVersion.parse text).mapError fun error => { cause := .apiVersion error }

def developmentImports (development : Option DevelopmentEntry) : List Import :=
  (development.map DevelopmentEntry.imports).getD []

def dataflow (document : DataflowDocument) : Except Error Dataflow := do
  let isV5 := (← parseVersion document.apiVersion).isV5
  let (services, types) ← runLower do
    declare isV5 document.types
    (Text.sortByName Prod.fst document.services).mapM fun (name, entry) =>
      inContext (named "service" name) (lowerService isV5 name entry)
  return {
    apiVersion := document.apiVersion, header := document.header.header
    imports := document.imports, types, services
    topics := (Text.sortByName Prod.fst (effectiveTopics document)).map fun (id, entry) =>
      lowerTopic (defaultConverter document) id entry
    schedules := (Text.sortByName Prod.fst document.schedules).map fun (name, cron) =>
      { name, cron }
    developmentImports := developmentImports document.development }

def lowerFunction (entry : FunctionEntry) : Lower Operation :=
  inContext (named "function" entry.name) do
    match Operator.ofName? entry.step.operator with
    | none => fail (.unknownOperator entry.step.operator)
    | some operator => return { operator, step := ← lowerStep entry.step }

def package (document : PackageDocument) : Except Error Package := do
  let isV5 := (← parseVersion document.apiVersion).isV5
  let ((states, functions), types) ← runLower do
    declare isV5 document.types
    let states ← (Text.sortByName Prod.fst document.states).mapM fun (name, declaration) => do
      return { name, type := ← inContext (named "state" name) (keyedStateOf isV5 declaration) }
    return (states, ← document.functions.mapM lowerFunction)
  return {
    apiVersion := document.apiVersion, header := document.header.header
    imports := document.imports, types, states, functions
    developmentImports := developmentImports document.development }

end FlowSpec.Lowering
