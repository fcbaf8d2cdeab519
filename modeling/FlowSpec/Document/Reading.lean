import FlowSpec.Document.Entry
import FlowSpec.Step

/-!
How the parts of documents are read. Parts with rules of their own are read as plain records first
and checked afterwards.
-/

set_option autoImplicit false

namespace FlowSpec.Document

open Yaml (Node Failure Reader)

def metaReader : Reader Malformed Meta :=
  .record "pipeline.Meta" {}
    [Reader.string.field "name" Meta.name fun r v => { r with name := v },
      Reader.string.field "version" Meta.version fun r v => { r with version := v },
      Reader.string.field "namespace" Meta.owner fun r v => { r with owner := v }]

/-! ### Imports -/

/-- Entries that are no more than a name. -/
def nameReader : Reader Malformed String :=
  .record "struct \x7b Name string \x22yaml:\\\x22name\\\x22\x22 \x7d" ""
    [Reader.string.field "name" id fun _ v => v]

def functionImportReader : Reader Malformed FunctionImport :=
  .record ("struct \x7b Name string \x22yaml:\\\x22name\\\x22\x22; "
      ++ "Alias string \x22yaml:\\\x22alias,omitempty\\\x22\x22 \x7d")
    { name := "" }
    [Reader.string.field "name" FunctionImport.name fun r v => { r with name := v },
      Reader.string.field "alias" FunctionImport.asName fun r v => { r with asName := v }]

/-- An import whose package is still text. -/
structure RawImport where
  package : String := ""
  path : String := ""
  types : List String := []
  states : List String := []
  functions : List FunctionImport := []

def rawImportReader : Reader Malformed RawImport :=
  .record "pipeline.importYAML" {}
    [Reader.string.field "pkg" RawImport.package fun r v => { r with package := v },
      Reader.string.field "path" RawImport.path fun r v => { r with path := v },
      nameReader.list.field "types" RawImport.types fun r v => { r with types := v },
      nameReader.list.field "states" RawImport.states fun r v => { r with states := v },
      functionImportReader.list.field "functions" RawImport.functions
        fun r v => { r with functions := v }]

def readImport (node : Node) : Outcome Import := do
  let raw ← rawImportReader.decode node
  match Header.parse raw.package with
  | .error _ => complain node.line (.packageName raw.package)
  | .ok package => return { package, path := raw.path, types := raw.types, states := raw.states,
                            functions := raw.functions }

def importReader : Reader Malformed Import := .custom "pipeline.Import" { package := {} } readImport

/-! ### Topics -/

def encodingReader : Reader Malformed EncodingEntry :=
  .record "pipeline.SchemaSerde" {}
    [Reader.string.field "type" EncodingEntry.type fun r v => { r with type := v },
      Reader.string.field "converter" EncodingEntry.converter fun r v => { r with converter := v }]

def offsetReader : Reader Malformed Offset :=
  .record "pipeline.Offset" {}
    [Reader.string.field "position" Offset.position fun r v => { r with position := v },
      (Reader.int64 "int64").field "value" Offset.value fun r v => { r with value := v }]

def consumerReader : Reader Malformed ConsumerEntry :=
  .record "pipeline.ConsumerConfig" {}
    [offsetReader.optional.field "default-starting-offset" ConsumerEntry.startingOffset
        fun r v => { r with startingOffset := v },
      (Reader.int64 "int").optional.field "max-bytes" ConsumerEntry.maxBytes
        fun r v => { r with maxBytes := v },
      Reader.string.field "isolation" ConsumerEntry.isolation fun r v => { r with isolation := v }]

def producerReader : Reader Malformed ProducerEntry :=
  .record "pipeline.ProducerConfig" {}
    [Reader.uint64.optional.field "linger-ms" ProducerEntry.lingerMs
        fun r v => { r with lingerMs := v },
      Reader.uint64.optional.field "batch-size" ProducerEntry.batchSize
        fun r v => { r with batchSize := v },
      Reader.uint64.optional.field "timeout-ms" ProducerEntry.timeoutMs
        fun r v => { r with timeoutMs := v },
      Reader.string.field "compression" ProducerEntry.compression
        fun r v => { r with compression := v },
      Reader.string.field "isolation" ProducerEntry.isolation fun r v => { r with isolation := v }]

/-- The key and value of a topic. -/
def schemaReader : Reader Malformed (Option EncodingEntry × EncodingEntry) :=
  .record "pipeline.TopicSchema" (none, {})
    [encodingReader.optional.field "key" Prod.fst fun r v => (v, r.2),
      encodingReader.field "value" Prod.snd fun r v => (r.1, v)]

def topicReader : Reader Malformed TopicEntry :=
  .record "pipeline.Topic" {}
    [Reader.string.field "name" TopicEntry.name fun r v => { r with name := v },
      schemaReader.field "schema" (fun r => (r.key, r.value))
        fun r v => { r with key := v.1, value := v.2 },
      consumerReader.optional.field "consumer" TopicEntry.consumer fun r v =>
        { r with consumer := v },
      producerReader.optional.field "producer" TopicEntry.producer fun r v =>
        { r with producer := v },
      Reader.string.field "remote-cluster-profile" TopicEntry.profile
        fun r v => { r with profile := v }]

def defaultsReader : Reader Malformed DefaultsEntry :=
  .record "pipeline.DefaultConfig" {}
    [Reader.string.field "converter" DefaultsEntry.converter fun r v => { r with converter := v },
      consumerReader.optional.field "consumer" DefaultsEntry.consumer
        fun r v => { r with consumer := v },
      producerReader.optional.field "producer" DefaultsEntry.producer
        fun r v => { r with producer := v }]

def developmentReader : Reader Malformed DevelopmentEntry :=
  .record "pipeline.DevConfig" {}
    [Reader.string.field "converter" DevelopmentEntry.converter fun r v =>
      { r with converter := v },
        importReader.list.field "imports" DevelopmentEntry.imports fun r v =>
          { r with imports := v },
      topicReader.entries.field "topics" DevelopmentEntry.topics fun r v => { r with topics := v }]

def scheduleReader : Reader Malformed String :=
  .record "pipeline.ScheduleConfig" "" [Reader.string.field "cron" id fun _ v => v]

/-! ### Steps -/

def inputReader : Reader Malformed InputEntry :=
  .record "pipeline.Input" {}
    [Reader.string.field "name" InputEntry.name fun r v => { r with name := v },
      Reader.string.field "type" InputEntry.type fun r v => { r with type := v },
      Reader.bool.field "optional" InputEntry.isOptional fun r v => { r with isOptional := v },
      Reader.string.field "kind" InputEntry.kind fun r v => { r with kind := v }]

def typeRefReader : Reader Malformed String :=
  .record "pipeline.TypeRef" "" [Reader.string.field "type" id fun _ v => v]

def pairReader : Reader Malformed PairEntry :=
  .record "pipeline.KeyValueProps" {}
    [typeRefReader.field "key" PairEntry.key fun r v => { r with key := v },
      typeRefReader.field "value" PairEntry.value fun r v => { r with value := v }]

def outputReader : Reader Malformed OutputEntry :=
  .record "pipeline.Output" {}
    [Reader.string.field "type" OutputEntry.type fun r v => { r with type := v },
      Reader.bool.field "optional" OutputEntry.isOptional fun r v => { r with isOptional := v },
      Reader.bool.field "list" OutputEntry.isList fun r v => { r with isList := v },
      pairReader.optional.field "properties" OutputEntry.pair fun r v => { r with pair := v }]

def dependencyReader : Reader Malformed Dependency :=
  .record "pipeline.Dependency" {}
    [Reader.string.field "name" Dependency.name fun r v => { r with name := v },
      Reader.string.field "version" Dependency.version fun r v => { r with version := v },
      Reader.string.field "path" Dependency.path fun r v => { r with path := v }]

def rawStepReader : Reader Malformed StepEntry :=
  .record "pipeline.stepYAML" {}
    [Reader.string.field "operator" StepEntry.operator fun r v => { r with operator := v },
      Reader.string.field "uses" StepEntry.uses fun r v => { r with uses := v },
      inputReader.list.field "inputs" StepEntry.inputs fun r v => { r with inputs := v },
      outputReader.optional.field "output" StepEntry.output fun r v => { r with output := v },
      nameReader.list.field "states" StepEntry.states fun r v => { r with states := v },
      Reader.string.field "run" StepEntry.run fun r v => { r with run := v },
      Reader.string.field "lang" StepEntry.language fun r v => { r with language := v },
      dependencyReader.list.field "dependencies" StepEntry.dependencies
        fun r v => { r with dependencies := v }]

def readStep (node : Node) : Outcome StepEntry := do
  let raw ← rawStepReader.decode node
  if raw.operator ≠ "" && (Operator.ofName? raw.operator).isNone then
    complain node.line (.unknownOperator raw.operator)
  else
    match raw.inputs.find? fun input => !(["", "key", "value"].contains input.kind) with
    | some input => complain node.line (.inputKind input.name input.kind)
    | none =>
      match raw.output with
      | some { type := "key-value", pair := none, .. } => complain node.line .keyValueOutput
      | _ => return { raw with line := node.line }

def stepReader : Reader Malformed StepEntry := .custom "pipeline.Step" {} readStep

/-! ### Services -/

/-- A partition whose parts may be missing. -/
structure RawPartition where
  assignKey : Option StepEntry := none
  transforms : List StepEntry := []
  updateState : Option StepEntry := none

def readPartition (node : Node) : Outcome PartitionEntry := do
  let raw ← (Reader.record "pipeline.plain" ({} : RawPartition)
    [stepReader.optional.field "assign-key" RawPartition.assignKey
        fun r v => { r with assignKey := v },
      stepReader.list.field "transforms" RawPartition.transforms
        fun r v => { r with transforms := v },
      stepReader.optional.field "update-state" RawPartition.updateState
        fun r v => { r with updateState := v }]).decode node
  match raw.assignKey with
  | none => complain node.line (.missingField "assign-key")
  | some assignKey =>
    return { assignKey, transforms := raw.transforms, updateState := raw.updateState }

def partitionReader : Reader Malformed PartitionEntry :=
  .custom "pipeline.Partition" {} readPartition

def tumblingReader : Reader Malformed TumblingEntry :=
  .record "pipeline.TumblingWindow" {}
    [Reader.string.field "duration" TumblingEntry.duration fun r v => { r with duration := v },
      Reader.string.field "offset" TumblingEntry.offset fun r v => { r with offset := v }]

def slidingReader : Reader Malformed SlidingEntry :=
  .record "pipeline.SlidingWindow" {}
    [Reader.string.field "duration" SlidingEntry.duration fun r v => { r with duration := v },
      Reader.string.field "offset" SlidingEntry.offset fun r v => { r with offset := v },
      Reader.string.field "slide" SlidingEntry.slide fun r v => { r with slide := v }]

def watermarkReader : Reader Malformed WatermarkEntry :=
  .record "pipeline.Watermark" {}
    [Reader.string.field "idleness" WatermarkEntry.idleness fun r v => { r with idleness := v },
      Reader.string.field "grace-period" WatermarkEntry.gracePeriod
        fun r v => { r with gracePeriod := v }]

/-- A window whose parts may be missing. -/
structure RawWindow where
  tumbling : Option TumblingEntry := none
  sliding : Option SlidingEntry := none
  watermark : Option WatermarkEntry := none
  assignTimestamp : Option StepEntry := none
  transforms : List StepEntry := []
  partition : Option PartitionEntry := none
  flush : Option StepEntry := none

def rawWindowReader : Reader Malformed RawWindow :=
  .record "pipeline.plain" {}
    [tumblingReader.optional.field "tumbling" RawWindow.tumbling fun r v =>
      { r with tumbling := v }, slidingReader.optional.field "sliding" RawWindow.sliding fun r v =>
        { r with sliding := v },
      watermarkReader.optional.field "watermark" RawWindow.watermark
        fun r v => { r with watermark := v },
      stepReader.optional.field "assign-timestamp" RawWindow.assignTimestamp
        fun r v => { r with assignTimestamp := v },
      stepReader.list.field "transforms" RawWindow.transforms fun r v => { r with transforms := v },
      partitionReader.optional.field "partition" RawWindow.partition
        fun r v => { r with partition := v },
      stepReader.optional.field "flush" RawWindow.flush fun r v => { r with flush := v }]

def readWindow (node : Node) : Outcome WindowEntry := do
  let raw ← rawWindowReader.decode node
  let size ← match raw.tumbling, raw.sliding with
    | none, none => complain node.line .windowSize
    | some _, some _ => complain node.line .windowSizes
    | some size, none => pure (SizeEntry.tumbling size)
    | none, some size => pure (SizeEntry.sliding size)
  match raw.assignTimestamp with
  | none => complain node.line (.missingField "assign-timestamp")
  | some assignTimestamp =>
    return { size, watermark := raw.watermark, assignTimestamp, transforms := raw.transforms,
             partition := raw.partition, flush := raw.flush }

def windowReader : Reader Malformed WindowEntry := .custom "pipeline.Window" {} readWindow

def rawEndpointReader : Reader Malformed EndpointEntry :=
  .record ("struct \x7b Type string \x22yaml:\\\x22type\\\x22\x22; "
      ++ "ID string \x22yaml:\\\x22id\\\x22\x22; "
      ++ "Transforms []pipeline.Step \x22yaml:\\\x22transforms\\\x22\x22 \x7d")
    {}
    [Reader.string.field "type" EndpointEntry.kind fun r v => { r with kind := v },
      Reader.string.field "id" EndpointEntry.id fun r v => { r with id := v },
      stepReader.list.field "transforms" EndpointEntry.transforms
        fun r v => { r with transforms := v }]

def readEndpoint (node : Node) : Outcome EndpointEntry := do
  let raw ← rawEndpointReader.decode node
  match raw.kind with
  | "topic" | "schedule" =>
    if raw.id.isEmpty then complain node.line (.endpointId raw.kind) else return raw
  | "no-target" =>
    if raw.transforms.isEmpty then return raw else complain node.line .targetTransforms
  | "" => complain node.line (.missingField "type")
  | other => complain node.line (.endpointKind other)

def endpointReader : Reader Malformed EndpointEntry := .custom "pipeline.IORef" {} readEndpoint

def readState (node : Node) : Outcome StateEntry :=
  if !node.isMapping then complain node.line (.stateKind (describe node))
  else if (node.find? "from").isSome then
    let target := node.scalarAt "from"
    if target.isEmpty then complain node.line .emptyReference else .ok (.reference target)
  else if (node.find? "system").isSome then .ok (.system (node.scalarAt "system"))
  else if (node.find? "type").isSome then do
    match ← Declaration.ofNode node with
    | declaration@(.keyedState ..) => return .declared declaration
    | other => complain node.line (.stateType other.type)
  else complain node.line .stateForm

def stateReader : Reader Malformed StateEntry :=
  .custom "pipeline.StateEntry" (.system "") readState

/-- A service whose sinks may be missing. -/
structure RawService where
  sources : List EndpointEntry := []
  sinks : Option (List EndpointEntry) := none
  transforms : List StepEntry := []
  window : Option WindowEntry := none
  partition : Option PartitionEntry := none
  states : List (String × StateEntry) := []

def rawServiceReader : Reader Malformed RawService :=
  .record "pipeline.serviceYAML" {}
    [endpointReader.list.field "sources" RawService.sources fun r v => { r with sources := v },
      endpointReader.list.optional.field "sinks" RawService.sinks fun r v => { r with sinks := v },
      stepReader.list.field "transforms" RawService.transforms fun r v =>
        { r with transforms := v },
      windowReader.optional.field "window" RawService.window fun r v => { r with window := v },
      partitionReader.optional.field "partition" RawService.partition
        fun r v => { r with partition := v },
      stateReader.entries.field "states" RawService.states fun r v => { r with states := v }]

/-- A service without sinks has one that goes nowhere. -/
def readService (node : Node) : Outcome ServiceEntry := do
  let raw ← rawServiceReader.decode node
  if raw.window.isSome && raw.partition.isSome then complain node.line .windowAndPartition
  else return { sources := raw.sources, sinks := raw.sinks.getD [{ kind := "no-target" }],
                transforms := raw.transforms, window := raw.window, partition := raw.partition,
                states := raw.states }

def serviceReader : Reader Malformed ServiceEntry := .custom "pipeline.Service" {} readService

end FlowSpec.Document
