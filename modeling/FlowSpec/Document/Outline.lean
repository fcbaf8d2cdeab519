import FlowSpec.Document.Entry

/-!
Outlines of documents as JSON. Members that hold nothing are left out; numbers are always written,
and so is a part that is present with all of its own members left out.
-/

set_option autoImplicit false

namespace FlowSpec.Document

open Json (textUnlessEmpty flagIfSet listUnlessEmpty memberIfSome)

/-- A member for a collection of named things, unless there are none. -/
def namedUnlessEmpty {α : Type} (name : String) (entries : List (String × α)) (encode : α → Json) :
    List (String × Json) :=
  if entries.isEmpty then []
    else [(name, .object (entries.map fun entry => (entry.1, encode entry.2)))]

def textsUnlessEmpty (name : String) (values : List String) : List (String × Json) :=
  listUnlessEmpty name (values.map Json.text)

def Meta.outline (info : Meta) : Json :=
  .object (textUnlessEmpty "Name" info.name ++ textUnlessEmpty "Version" info.version
    ++ textUnlessEmpty "Namespace" info.owner)

def headerOutline (header : Header) : Json :=
  .object (textUnlessEmpty "namespace" header.owner ++ textUnlessEmpty "name" header.name
    ++ textUnlessEmpty "version" header.version)

def functionImportOutline (function : FunctionImport) : Json :=
  .object (textUnlessEmpty "name" function.name ++ textUnlessEmpty "alias" function.asName)

def importOutline (self : Import) : Json :=
  .object ([("Pkg", headerOutline self.package)] ++ textUnlessEmpty "Path" self.path
    ++ textsUnlessEmpty "Types" self.types ++ textsUnlessEmpty "States" self.states
    ++ listUnlessEmpty "Functions" (self.functions.map functionImportOutline))

/-! ### Declarations -/

def renameOutline (rename : String) : Json := .object (textUnlessEmpty "Rename" rename)

def renames (serialize deserialize : Option String) : List (String × Json) :=
  memberIfSome "Serialize" serialize renameOutline ++
    memberIfSome "Deserialize" deserialize renameOutline

def columnOutline (column : Column) : Json :=
  .object (textUnlessEmpty "Name" column.name ++ textUnlessEmpty "Type" column.type)

def infoMembers (type : String) (info : DeclarationInfo) : List (String × Json) :=
  textUnlessEmpty "Type" type ++ textUnlessEmpty "TypeName" info.typeName ++
    [("Line", .int info.line)]

mutual

def Declaration.outlineMembers : Declaration → List (String × Json)
  | .plain info type => infoMembers type info
  | .object info properties =>
    infoMembers "object" info ++ listUnlessEmpty "Properties" (propertyOutlines properties)
  | .enumeration info tagging variants =>
    infoMembers "enum" info ++ textUnlessEmpty "Tagging" tagging
      ++ listUnlessEmpty "Variants" (alternativeOutlines variants)
  | .list info items => infoMembers "list" info ++ [("Items", .object items.outlineMembers)]
  | .option info value => infoMembers "option" info ++ [("Value", .object value.outlineMembers)]
  | .keyedState info key value =>
    infoMembers "keyed-state" info ++ [("Key", .object key.outlineMembers),
      ("Value", .object value.outlineMembers)]
  | .keyValue info key value =>
    infoMembers "key-value" info ++ [("Key", .object key.outlineMembers),
      ("Value", .object value.outlineMembers)]
  | .row info columns =>
    infoMembers "arrow-row" info ++ listUnlessEmpty "Columns" (columns.map columnOutline)

def propertyOutlines : List (Property Declaration) → List Json
  | [] => []
  | ⟨name, type, isOptional, serialize, deserialize⟩ :: rest =>
    .object (textUnlessEmpty "Name" name ++ type.outlineMembers ++ flagIfSet "Optional" isOptional
      ++ renames serialize deserialize) :: propertyOutlines rest

def alternativeOutlines : List (Alternative Declaration) → List Json
  | [] => []
  | ⟨name, none, serialize, deserialize⟩ :: rest =>
    .object (textUnlessEmpty "Name" name ++ renames serialize deserialize) ::
      alternativeOutlines rest
  | ⟨name, some payload, serialize, deserialize⟩ :: rest =>
    .object (textUnlessEmpty "Name" name ++ [("Type", .object payload.outlineMembers)]
      ++ renames serialize deserialize) :: alternativeOutlines rest

end

def Declaration.outline (declaration : Declaration) : Json := .object declaration.outlineMembers

/-- The made-up names of composite declarations. -/
def listNames (types : List (String × Declaration)) : Json :=
  .object ((types.filter fun type => type.2.isComposite).map fun type =>
    (type.1, .text type.2.generatedName))

/-! ### Topics -/

def EncodingEntry.outline (entry : EncodingEntry) : Json :=
  .object (textUnlessEmpty "Type" entry.type ++ textUnlessEmpty "Converter" entry.converter)

def Offset.outline (offset : Offset) : Json :=
  .object (textUnlessEmpty "Position" offset.position ++ [("Value", .int offset.value)])

def ConsumerEntry.outline (entry : ConsumerEntry) : Json :=
  .object (memberIfSome "DefaultStartingOffset" entry.startingOffset Offset.outline
    ++ memberIfSome "MaxBytes" entry.maxBytes Json.int ++
    textUnlessEmpty "Isolation" entry.isolation)

def natJson (n : Nat) : Json := .int n

def ProducerEntry.outline (entry : ProducerEntry) : Json :=
  .object (memberIfSome "LingerMs" entry.lingerMs natJson ++
      memberIfSome "BatchSize" entry.batchSize natJson
    ++ memberIfSome "TimeoutMs" entry.timeoutMs natJson ++
    textUnlessEmpty "Compression" entry.compression ++ textUnlessEmpty "Isolation" entry.isolation)

def TopicEntry.outline (entry : TopicEntry) : Json :=
  .object (textUnlessEmpty "Name" entry.name
    ++ [("Schema", .object (memberIfSome "Key" entry.key EncodingEntry.outline
      ++ [("Value", entry.value.outline)]))]
    ++ memberIfSome "Consumer" entry.consumer ConsumerEntry.outline
    ++ memberIfSome "Producer" entry.producer ProducerEntry.outline
    ++ textUnlessEmpty "Profile" entry.profile)

def DefaultsEntry.outline (entry : DefaultsEntry) : Json :=
  .object (textUnlessEmpty "Converter" entry.converter
    ++ memberIfSome "Consumer" entry.consumer ConsumerEntry.outline
    ++ memberIfSome "Producer" entry.producer ProducerEntry.outline)

def DevelopmentEntry.outline (entry : DevelopmentEntry) : Json :=
  .object (textUnlessEmpty "Converter" entry.converter
    ++ listUnlessEmpty "Imports" (entry.imports.map importOutline)
    ++ namedUnlessEmpty "Topics" entry.topics TopicEntry.outline)

/-! ### Steps -/

def InputEntry.outline (entry : InputEntry) : Json :=
  .object (textUnlessEmpty "Name" entry.name ++ textUnlessEmpty "Type" entry.type
    ++ flagIfSet "Optional" entry.isOptional ++ textUnlessEmpty "Kind" entry.kind)

def PairEntry.outline (entry : PairEntry) : Json :=
  .object [("Key", .object (textUnlessEmpty "Type" entry.key)),
    ("Value", .object (textUnlessEmpty "Type" entry.value))]

def OutputEntry.outline (entry : OutputEntry) : Json :=
  .object (textUnlessEmpty "Type" entry.type ++ flagIfSet "Optional" entry.isOptional
    ++ flagIfSet "List" entry.isList ++ memberIfSome "Properties" entry.pair PairEntry.outline)

def dependencyOutline (dependency : Dependency) : Json :=
  .object (textUnlessEmpty "Name" dependency.name ++ textUnlessEmpty "Version" dependency.version
    ++ textUnlessEmpty "Path" dependency.path)

def StepEntry.outline (entry : StepEntry) : Json :=
  .object (textUnlessEmpty "Operator" entry.operator ++ textUnlessEmpty "Uses" entry.uses
    ++ listUnlessEmpty "Inputs" (entry.inputs.map InputEntry.outline)
    ++ memberIfSome "Output" entry.output OutputEntry.outline ++
    textsUnlessEmpty "States" entry.states
    ++ textUnlessEmpty "Run" entry.run ++ textUnlessEmpty "Lang" entry.language
    ++ listUnlessEmpty "Dependencies" (entry.dependencies.map dependencyOutline)
    ++ [("Line", .int entry.line)])

def FunctionEntry.outline (entry : FunctionEntry) : Json :=
  .object (textUnlessEmpty "Name" entry.name ++ [("Step", entry.step.outline)])

def stepsUnlessEmpty (name : String) (steps : List StepEntry) : List (String × Json) :=
  listUnlessEmpty name (steps.map StepEntry.outline)

/-! ### Services -/

def PartitionEntry.outline (entry : PartitionEntry) : Json :=
  .object ([("AssignKey", entry.assignKey.outline)] ++
      stepsUnlessEmpty "Transforms" entry.transforms
    ++ memberIfSome "UpdateState" entry.updateState StepEntry.outline)

def SizeEntry.members : SizeEntry → List (String × Json)
  | .tumbling size => [("Tumbling",
      .object (textUnlessEmpty "Duration" size.duration ++ textUnlessEmpty "Offset" size.offset))]
  | .sliding size => [("Sliding",
      .object (textUnlessEmpty "Duration" size.duration ++ textUnlessEmpty "Offset" size.offset
        ++ textUnlessEmpty "Slide" size.slide))]

def WatermarkEntry.outline (entry : WatermarkEntry) : Json :=
  .object (textUnlessEmpty "Idleness" entry.idleness ++
      textUnlessEmpty "GracePeriod" entry.gracePeriod)

def WindowEntry.outline (entry : WindowEntry) : Json :=
  .object (entry.size.members ++ memberIfSome "Watermark" entry.watermark WatermarkEntry.outline
    ++ [("AssignTimestamp", entry.assignTimestamp.outline)]
    ++ stepsUnlessEmpty "Transforms" entry.transforms
    ++ memberIfSome "Partition" entry.partition PartitionEntry.outline
    ++ memberIfSome "Flush" entry.flush StepEntry.outline)

def EndpointEntry.outline (entry : EndpointEntry) : Json :=
  .object (textUnlessEmpty "Type" entry.kind ++ textUnlessEmpty "ID" entry.id
    ++ stepsUnlessEmpty "Transforms" entry.transforms)

def StateEntry.outline : StateEntry → Json
  | .declared declaration => .object [("Typed", declaration.outline)]
  | .reference target => .object (textUnlessEmpty "From" target)
  | .system kind => .object (textUnlessEmpty "System" kind)

def ServiceEntry.outline (entry : ServiceEntry) : Json :=
  .object (listUnlessEmpty "Sources" (entry.sources.map EndpointEntry.outline)
    ++ listUnlessEmpty "Sinks" (entry.sinks.map EndpointEntry.outline)
    ++ stepsUnlessEmpty "Transforms" entry.transforms
    ++ memberIfSome "Window" entry.window WindowEntry.outline
    ++ memberIfSome "Partition" entry.partition PartitionEntry.outline
    ++ namedUnlessEmpty "States" entry.states StateEntry.outline)

/-! ### Documents -/

def cronOutline (cron : String) : Json := .object (textUnlessEmpty "Cron" cron)

def DataflowDocument.outline (document : DataflowDocument) : Json :=
  .object (textUnlessEmpty "APIVersion" document.apiVersion ++ [("Meta", document.header.outline)]
    ++ listUnlessEmpty "Imports" (document.imports.map importOutline)
    ++ namedUnlessEmpty "Types" document.types Declaration.outline
    ++ namedUnlessEmpty "Topics" document.topics TopicEntry.outline
    ++ memberIfSome "Config" document.defaults DefaultsEntry.outline
    ++ memberIfSome "Dev" document.development DevelopmentEntry.outline
    ++ namedUnlessEmpty "Services" document.services ServiceEntry.outline
    ++ namedUnlessEmpty "Schedule" document.schedules cronOutline)

def PackageDocument.outline (document : PackageDocument) : Json :=
  .object (textUnlessEmpty "APIVersion" document.apiVersion ++ [("Meta", document.header.outline)]
    ++ listUnlessEmpty "Imports" (document.imports.map importOutline)
    ++ namedUnlessEmpty "Types" document.types Declaration.outline
    ++ namedUnlessEmpty "States" document.states Declaration.outline
    ++ listUnlessEmpty "Functions" (document.functions.map FunctionEntry.outline)
    ++ memberIfSome "Dev" document.development DevelopmentEntry.outline)

end FlowSpec.Document
