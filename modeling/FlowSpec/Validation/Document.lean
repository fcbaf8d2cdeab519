import FlowSpec.ApiVersion
import FlowSpec.Validation.Service

/-! Validation of whole definitions. All problems are gathered in one report. -/

set_option autoImplicit false

namespace FlowSpec.Validation

/-- The report on a definition that is not valid. -/
structure Error where
  heading : String
  nodes : List Report
deriving Repr, Inhabited

def Error.message (error : Error) : String :=
  error.heading ++ "\n\n" ++ String.join (error.nodes.map fun node => node.render 1 ++ "\n")

/-- Succeeds where nothing was found. -/
def conclude (heading : String) (nodes : List Report) : Except Error Unit :=
  if nodes.isEmpty then .ok () else .error { heading, nodes }

def headerProblems (header : Header) : List Report :=
  (Report.linesUnlessEmpty header.problems).toList.map fun lines =>
    .group "Header is invalid:" [lines]

def versionProblems (dataflow : Dataflow) : List String :=
  match ApiVersion.parse dataflow.apiVersion with
  | .error error => ["Failed to parse version: " ++ error.message]
  | .ok version =>
    if !version.isV5 && !version.isV6 then ["Unsupported version: " ++ dataflow.apiVersion]
    else if version.isV5 && !dataflow.schedules.isEmpty then
      ["Version " ++ dataflow.apiVersion
        ++ " does not support configuration: schedule, supported version: 0.6.0"]
    else []

/-! ### Topics and schedules -/

def isTopicChar (c : Char) : Bool := ('a' ≤ c && c ≤ 'z') || ('0' ≤ c && c ≤ '9') || c == '-'

def topicNameProblems (name : String) : List String :=
  if name.isEmpty then ["Name cannot be empty"]
  else
    (if name.utf8ByteSize > 63 then
        ["Name is too long, Topic names may only have 63 characters"] else [])
      ++ (if name.toList.all isTopicChar then []
        else ["Name may only contain lowercase alphanumeric characters or '-'"])
      ++ if name.toList.head? = some '-' || name.toList.getLast? = some '-' then
          ["Name cannot start or end with a dash"] else []

def topicProblems (scope : Scope) (topic : Topic) : Option Report :=
  Report.groupUnlessEmpty ("Topic `" ++ topic.name ++ "` is invalid:")
    ((Report.linesUnlessEmpty (topicNameProblems topic.name)).toList.map
        (fun lines => .group "Topic name is invalid:" [lines])
      ++ (match topic.key with
        | some key => lineIf (!scope.contains key.type)
          ("Referenced key type `" ++ key.type ++ "` not found in config or imported types")
        | none => [])
      ++ scope.unknownType topic.value.type
      ++ lineIf topic.value.converter.isEmpty
        "Topic needs to have a \x22converter\x22 specified for serializing/deserializing records")

def scheduleProblems (schedule : Schedule) : Option Report :=
  match schedule.validate with
  | .ok _ => none
  | .error error => some (.group ("Schedule `" ++ schedule.name ++ "` is invalid:")
      [.line ("Failed to parse cron config: " ++ error.cause.message)])

/-! ### Across services -/

/-- A reference that names a state which no service owns. -/
def isUndefined (dataflow : Dataflow) (state : PoolState) : Bool :=
  match state.source with
  | .reference (some target) _ =>
    if target.service.isEmpty || target.state.isEmpty then false
    else match (dataflow.service? target.service).bind fun service =>
      service.state? target.state with
      | some { source := .owned _, .. } => false
      | _ => true
  | _ => false

def targetText (state : PoolState) : String :=
  match state.source with
  | .reference (some target) _ => target.text
  | _ => ""

/-- The first undefined reference, with the service it is in. -/
def undefinedReference (dataflow : Dataflow) : Option Report :=
  (dataflow.services.flatMap fun service =>
    (service.states.filter (isUndefined dataflow)).map fun state =>
      Report.line ("State with name " ++ targetText state ++
          " is referenced in service " ++ service.name
        ++ " but not defined in the dataflow")).head?

/-- Names that occur before, each told once. -/
def repeatedNames : List String → List String → List String → List String
  | [], _, _ => []
  | name :: rest, seen, told =>
    if seen.contains name && !told.contains name then
      name :: repeatedNames rest seen (name :: told)
    else repeatedNames rest (name :: seen) told

/-- Functions that are written in the dataflow itself. -/
def inlineNames (dataflow : Dataflow) : List String :=
  ((dataflow.services.flatMap Service.operations).filter fun operation =>
    operation.step.imported.isNone
      && !dataflow.imports.any fun self => (self.function? operation.step.uses).isSome).map
    fun operation => operation.step.uses

def duplicateInline (dataflow : Dataflow) : Option Report :=
  Report.linesUnlessEmpty ((repeatedNames (inlineNames dataflow) [] []).map fun name =>
    "Duplicate inline operator with name: " ++ name
      ++ " was found, inline operators must have unique names")

/-! ### Definitions -/

def dataflowProblems (scope : Scope) (dataflow : Dataflow) : List Report :=
  let around : Surroundings := { scope, topics := dataflow.topics, schedules := dataflow.schedules }
  (Report.linesUnlessEmpty (versionProblems dataflow)).toList
    ++ headerProblems dataflow.header
    ++ dataflow.types.filterMap scope.checkType
    ++ dataflow.topics.filterMap (topicProblems scope)
    ++ dataflow.schedules.filterMap scheduleProblems
    ++ dataflow.services.filterMap (serviceProblems around)
    ++ (undefinedReference dataflow).toList
    ++ (duplicateInline dataflow).toList

def validateDataflow (scope : Scope) (dataflow : Dataflow) : Except Error Unit :=
  conclude "Dataflow Config failed validation" (dataflowProblems scope dataflow)

/-- The report on a state of a package. -/
def packageStateProblems (scope : Scope) (state : TypedState) : List Report :=
  match state.resolve scope.shape? with
  | .error error => [stateGroup (.line error.message)]
  | .ok typed =>
    match typed.type.value with
    | .unresolved name => [stateGroup (.line (unknownTypeLine name))]
    | _ => (State.typedProblems typed).map stateGroup

def packageProblems (scope : Scope) (package : Package) : List Report :=
  headerProblems package.header
    ++ package.types.filterMap scope.checkType
    ++ package.states.flatMap (packageStateProblems scope)
    ++ (Report.linesUnlessEmpty (package.functions.flatMap fun function =>
      stepProblems scope function.operator function.step)).toList

def validatePackage (scope : Scope) (package : Package) : Except Error Unit :=
  conclude "Package Config failed validation" (packageProblems scope package)

end FlowSpec.Validation
