import FlowSpec.State.Validation
import FlowSpec.Validation.Step

/-!
Validation of services: sources and sinks have targets whose types agree, every step's input is what
reaches it, and states are well formed.
-/

set_option autoImplicit false

namespace FlowSpec.Validation

/-- What services are checked against. -/
structure Surroundings where
  scope : Scope
  topics : List Topic
  schedules : List Schedule
deriving Repr, DecidableEq, Inhabited

def transformsBlock (children : List Report) : Report :=
  .group "Transforms block is invalid:" children

def invalidOperators (lines : List String) : Report :=
  .group "Invalid operator(s):" (lines.map Report.line)

/-! ### Transforms -/

/-- What is said of a key that a step takes. -/
def keyProblems (operation : Operation) (pair : Pair) : List String :=
  match operation.step.inputs, pair.key with
  | first :: _, found =>
    if !first.isKey then []
    else match found with
      | none =>
        [operation.step.uses ++ (" function requires a key, but none was found. "
          ++ "Make sure that you define the right key in the topic configuration")]
      | some key =>
        if sameTypeName first.type key then []
        else ["in `" ++ operation.step.uses ++ "`, key type does not match expected key type. "
          ++ first.type ++ " != " ++ key]
  | [], _ => []

def valueProblems (operation : Operation) (pair : Pair) (provider : String) : List String :=
  match operation.step.valueInput with
  | some value =>
    if sameTypeName value.type pair.value then []
    else ["Function `" ++ operation.step.uses ++ "` input type was expected to match `"
      ++ pair.value ++ "` type provided by " ++ provider ++ ", but `" ++ value.type
      ++ "` was found."]
  | none => []

def functionName (operation : Operation) : String := "function `" ++ operation.step.uses ++ "`"

/-- Checks every step and threads the pair through; `provider` names what made the current pair. -/
def transformProblems (scope : Scope) : List Operation → Pair → String → List String
  | [], _, _ => []
  | operation :: rest, pair, provider =>
    stepProblems scope operation.operator operation.step ++ keyProblems operation pair
      ++ valueProblems operation pair provider
      ++ transformProblems scope rest (operation.passOn pair)
        (if operation.step.output.isSome then functionName operation else provider)

/-- The pair that leaves transforms whose inputs fit. -/
def transformsOutput : List Operation → Pair → Option Pair
  | [], pair => some pair
  | operation :: rest, pair =>
    match operation.step.valueInput with
    | some value =>
      if sameTypeName value.type pair.value then transformsOutput rest (operation.passOn pair)
      else none
    | none => none

/-- The output of transforms that end with a given one; a filter puts out what it takes. -/
def chainOutput (last : Operation) : Except String Pair :=
  if last.operator = .filter then
    match last.step.inputPair with
    | some pair => .ok pair
    | none => .error "Last transforms step is invalid. Filter operator should have an input type"
  else match last.step.output with
    | some output => .ok output.pair
    | none => .error "Last transforms step is invalid. Expected an operator with an output type"

/-! ### Sources and sinks -/

/-- The type of what a source brings. -/
def sourcePair (around : Surroundings) (source : Endpoint) : Except Report Pair :=
  match source.transforms.getLast? with
  | some last => (chainOutput last).mapError fun text => transformsBlock [.line text]
  | none =>
    match source.targetPair around.topics with
    | .error error => .error (.line error.message)
    | .ok none => .error (.line "Cannot have a source with no target")
    | .ok (some pair) => .ok pair

/-- The type of what a sink takes; one without a target takes anything. -/
def sinkPair (around : Surroundings) (sink : Endpoint) : Except Report (Option Pair) :=
  match sink.transforms with
  | first :: _ =>
    match first.step.inputPair with
    | some pair => .ok (some pair)
    | none =>
      .error (transformsBlock [.line "The first operator in a transforms block must take an input"])
  | [] => (sink.targetPair around.topics).mapError fun error => .line error.message

/-- Types that should be the same and are not. -/
def disagreement (what lower : String) (pairs : List (String × Pair)) : List Report :=
  if pairsAgree (pairs.map Prod.snd) then []
  else [.group (what ++ " for service must be identical, but the " ++ lower ++
      " had the following types:")
    [.line (Text.join ", " (pairs.map fun (name, pair) => name ++ ": " ++ pair.text))]]

def sourceTransforms (around : Surroundings) (source : Endpoint) : List Report :=
  match source.targetPair around.topics with
  | .ok (some pair) =>
    let lines :=
      transformProblems around.scope source.transforms pair ("Topic `" ++ source.id ++ "`")
    if lines.isEmpty then [] else [invalidOperators lines]
  | _ => []

def sourceProblems (around : Surroundings) (source : Endpoint) : List Report :=
  (match sourcePair around source with
    | .error report => [report]
    | .ok _ => [])
    ++ sourceTransforms around source
    ++ lineIf (source.kind = .schedule && !around.schedules.any fun s => s.name == source.id)
      (UnknownTopic.message ⟨source.id⟩)

def sourcesProblems (around : Surroundings) (sources : List Endpoint) : List Report :=
  sources.filterMap (fun source =>
      Report.groupUnlessEmpty ("Source `" ++ source.id ++ "` is invalid:")
      (sourceProblems around source))
    ++ disagreement "Sources" "sources" (sources.filterMap fun source =>
      (sourcePair around source).toOption.map fun pair => (source.id, pair))

/-- Lines on what a sink takes against what the service puts out. -/
def sinkInputLines (taken output : Pair) : List String :=
  (if sameTypeName taken.value output.value then []
    else ["service output type `" ++ output.value ++ "` does not match sink input type `" ++
      taken.value ++ "`"])
    ++ match taken.key, output.key with
      | some key, some found =>
        if key = found then []
        else ["sink transforms input key type `" ++ key ++
            "` does not match service output key type `"
          ++ found ++ "`"]
      | _, _ => []

/-- Lines on what a sink's transforms put out against its target. -/
def sinkOutputLines (around : Surroundings) (sink : Endpoint) (final : Pair) : List String :=
  match sink.targetPair around.topics with
  | .error _ => []
  | .ok none => ["sink cannot have transforms steps without a target"]
  | .ok (some target) =>
    (if target.value = final.value then []
      else ["transforms steps final output type `" ++ final.value ++ "` does not match topic type `"
        ++ target.value ++ "`"])
      ++ match target.key, final.key with
        | some key, some found =>
          if key = found then []
          else ["sink `" ++ sink.id ++ "` has transforms steps but final output key type `" ++ found
            ++ "` does not match topic key type `" ++ key ++ "`"]
        | _, _ => []

def sinkProblems (around : Surroundings) (sink : Endpoint) (output : Pair) : List Report :=
  let (taken, inputLines) := match sinkPair around sink with
    | .error report => ([report], [])
    | .ok (some taken) => ([], sinkInputLines taken output)
    | .ok none => ([], [])
  let (operators, outputLines) := match sink.transforms.getLast? with
    | none => ([], [])
    | some last =>
      let lines := transformProblems around.scope sink.transforms output "service"
      (if lines.isEmpty then [] else [invalidOperators lines],
        match chainOutput last with
        | .error text => [text]
        | .ok final => sinkOutputLines around sink final)
  let block := (Report.linesUnlessEmpty (inputLines ++ outputLines)).map fun lines =>
    transformsBlock [lines]
  taken ++ operators ++ block.toList

def sinksProblems (around : Surroundings) (sinks : List Endpoint) (output : Pair) : List Report :=
  sinks.filterMap (fun sink => Report.groupUnlessEmpty ("Sink `" ++ sink.id ++ "` is invalid:")
      (sinkProblems around sink output))
    ++ disagreement "Sinks" "sinks" (sinks.filterMap fun sink =>
      match sinkPair around sink with
      | .ok (some pair) => some (sink.id, pair)
      | _ => none)

/-! ### Windows and partitions -/

/-- A declared type that is not what was provided. -/
def providedMismatch (label : String) (step : Step) (what expected provider found : String) :
    List String :=
  if found = expected then []
  else [label ++ " function `" ++ step.uses ++ "` " ++ what ++ " type should match `" ++ expected
    ++ "` provided by `" ++ provider ++ "` but found `" ++ found ++ "`"]

def valueMismatch (label : String) (step : Step) (pair : Pair) (provider : String) : List String :=
  match step.valueInput with
  | some value => providedMismatch label step "input" pair.value provider value.type
  | none => []

/-- The key that a step takes. -/
def keyInput (step : Step) : Option String :=
  match step.inputs with
  | first :: _ => if first.isKey then some first.type else none
  | [] => none

def timestampProblems (scope : Scope) (step : Step) (pair : Pair) (provider : String) :
    List String :=
  stepProblems scope .assignTimestamp step
    ++ (match keyInput step, pair.key with
      | some key, some expected =>
        providedMismatch "assign-timestamp" step "input" expected provider key
      | _, _ => [])
    ++ valueMismatch "assign-timestamp" step pair provider

def assignKeyProblems (scope : Scope) (step : Step) (pair : Pair) (provider : String) :
    List String :=
  stepProblems scope .assignKey step
    ++ (match keyInput step, pair.key with
      | some _, none => ["assign-key type function `" ++ step.uses ++ "` requires a key type"]
      | some key, some expected => providedMismatch "assign-key" step "key" expected provider key
      | none, _ => [])
    ++ valueMismatch "assign-key" step pair provider

/-- The pair behind `assign-key`. -/
def keyedPair (partition : Partition) (pair : Pair) : Pair :=
  match partition.assignKey.output with
  | some output => pair.withKey output.value
  | none => pair

/-- What the last transform with an output is called, else `provider`. -/
def lastProvider (operations : List Operation) (provider : String) : String :=
  match operations.reverse.find? fun operation => operation.step.output.isSome with
  | some operation => functionName operation
  | none => provider

def updateProblems (scope : Scope) (partition : Partition) (keyed : Pair) (provider : String)
    (step : Step) : List String :=
  stepProblems scope .updateState step
    ++ match transformsOutput partition.transforms keyed, step.valueInput with
      | some output, some value =>
        if sameTypeName value.type output.value then []
        else ["update-state function `" ++ step.uses ++
            "` input type should match `" ++ output.value
          ++ "` provided by `" ++ lastProvider partition.transforms provider ++ "` but found `"
          ++ value.type ++ "`"]
      | _, _ => []

def partitionProblems (scope : Scope) (partition : Partition) (pair : Pair) (provider : String) :
    List String :=
  let keyed := keyedPair partition pair
  assignKeyProblems scope partition.assignKey pair provider
    ++ Report.inContext "transforms block is invalid:"
      (transformProblems scope partition.transforms keyed provider)
    ++ (partition.updateState.map (updateProblems scope partition keyed provider)).getD []

def windowProblems (scope : Scope) (window : Window) (pair : Pair) (provider : String) :
    List String :=
  timestampProblems scope window.assignTimestamp pair provider
    ++ Report.inContext "transforms block is invalid:"
      (transformProblems scope window.transforms pair provider)
    ++ match transformsOutput window.transforms pair with
      | none => []
      | some output =>
        (window.partition.map fun partition => Report.inContext "partition is invalid:"
            (partitionProblems scope partition output "window")).getD []
          ++ (window.flush.map fun step => Report.inContext "flush function is invalid:"
            (stepProblems scope .aggregate step)).getD []

def partitionOutput (partition : Partition) (pair : Pair) : Option Pair :=
  transformsOutput partition.transforms (keyedPair partition pair)

def windowOutput (window : Window) (pair : Pair) : Option Pair := do
  let output ← transformsOutput window.transforms pair
  let output ← match window.partition with
    | some partition => partitionOutput partition output
    | none => some output
  match window.flush with
  | some step => step.output.map Output.pair
  | none => return output

/-- The pair that leaves the window or the partition. -/
def stageOutput (service : Service) (pair : Pair) : Option Pair :=
  match service.window, service.partition with
  | some window, _ => windowOutput window pair
  | none, some partition => partitionOutput partition pair
  | none, none => some pair

def stageProblems (scope : Scope) (service : Service) (pair : Pair) : List Report :=
  (Report.linesUnlessEmpty (match service.window, service.partition with
    | some window, _ =>
      Report.inContext "Window" (windowProblems scope window pair "transforms block")
    | none, some partition =>
      Report.inContext "Partition" (partitionProblems scope partition pair "transforms block")
    | none, none => [])).toList

/-! ### States -/

def stateGroup (report : Report) : Report := .group "State is invalid:" [report]

/-- The reports on an entry of the pool, whose value is settled for the check. -/
def poolStateProblems (scope : Scope) (state : PoolState) : List Report :=
  match state.source with
  | .owned (some typed) =>
    match typed.resolve scope.shape? with
    | .error error => [stateGroup (.line error.message)]
    | .ok typed => (State.problems { state with source := .owned (some typed) }).map stateGroup
  | _ => (State.problems state).map stateGroup

/-! ### Services -/

/-- The type that enters the transforms of a service. -/
def servicePair (around : Surroundings) (service : Service) : Except Report Pair :=
  match service.sources with
  | [] => .error (.line "Service must have at least one source")
  | first :: _ =>
    (sourcePair around first).mapError fun _ =>
      .line ("Source topic `" ++ first.id ++ "` not found")

/-- The reports that precede the window or partition. -/
def transformReports (around : Surroundings) (service : Service) (pair : Pair) : List Report :=
  sourcesProblems around service.sources
    ++ service.states.flatMap (poolStateProblems around.scope)
    ++ ((Report.linesUnlessEmpty
      (transformProblems around.scope service.transforms pair "sources")).map
      fun lines => transformsBlock [lines]).toList

/-- The report on a service; a valid one has none. Checks end where the type of what comes next is
not known. -/
def serviceProblems (around : Surroundings) (service : Service) : Option Report :=
  let name := lineIf service.name.isEmpty "Service name cannot be empty"
  let report (children : List Report) : Option Report :=
    some (.service service.name (name ++ children))
  match servicePair around service with
  | .error error => report [error]
  | .ok pair =>
    let before := transformReports around service pair
    match transformsOutput service.transforms pair with
    | none =>
      report (before ++
          [transformsBlock [.line "could not get output type from invalid transforms"]])
    | some output =>
      let stage := stageProblems around.scope service output
      match stageOutput service output with
      | none => report (before ++ stage)
      | some output =>
        let children := name ++ before ++ stage ++ sinksProblems around service.sinks output
        if children.isEmpty then none else some (.service service.name children)

end FlowSpec.Validation
