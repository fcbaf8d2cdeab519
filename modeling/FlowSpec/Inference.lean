import FlowSpec.Pair

/-!
Inference of types. The pair that leaves the sources is threaded through transforms, the window or
partition, and the sinks, and every step's declared input is compared with the pair that reaches it.
-/

set_option autoImplicit false

namespace FlowSpec.Inference

inductive Mismatch where
  | noSources
  | unknownTopic (error : UnknownTopic)
  | noTarget (source : String)
  | sources (source : String) (pair first : Pair)
  | noInput (value : String)
  | keyMissing (key : String)
  | keyType (declared found : String)
  | inputType (declared found : String)
  | noOutput
  | unresolvedState (state : String)
  | targetTransforms
  | sinkValue (sink expected found : String)
  | sinkKey (sink expected found : String)
deriving Repr, DecidableEq, Inhabited

def Mismatch.message : Mismatch → String
  | noSources => "service must have at least one source"
  | unknownTopic error => String.ofList (error.message.toList.takeWhile (· ≠ '\n'))
  | noTarget source => "source `" ++ source ++ "` has no target"
  | sources source pair first =>
    "source `" ++ source ++ "` produces " ++ pair.text ++ " but the first source produces " ++
      first.text
  | noInput value => "expected an input of type `" ++ value ++ "`, found none"
  | keyMissing key => "requires a key of type `" ++ key ++ "`, but the stream has no key"
  | keyType declared found => "key type `" ++ declared ++ "` does not match `" ++ found ++ "`"
  | inputType declared found => "input type `" ++ declared ++ "` does not match `" ++ found ++ "`"
  | noOutput => "requires an output type"
  | unresolvedState state => "state `" ++ state ++ "` is not resolved"
  | targetTransforms => "sink cannot have transforms steps without a target"
  | sinkValue sink expected found =>
    "sink `" ++ sink ++ "` expects `" ++ expected ++ "` but receives `" ++ found ++ "`"
  | sinkKey sink expected found =>
    "sink `" ++ sink ++ "` expects key `" ++ expected ++ "` but receives key `" ++ found ++ "`"

/-- The first mismatch of a service, where it is, and the step it concerns, if any. -/
structure Error where
  service : String
  position : String
  operator : Operator := .map
  uses : String := ""
  mismatch : Mismatch
deriving Repr, DecidableEq, Inhabited

def Error.message (error : Error) : String :=
  "service `" ++ error.service ++ "`: " ++ error.position
    ++ (if error.uses.isEmpty then "" else " " ++ error.operator.name ++ " `" ++ error.uses ++ "`")
    ++ ": " ++ error.mismatch.message

/-- The pairs that enter and leave a step. -/
structure StepTyping where
  position : String
  operator : Operator
  uses : String
  input : Pair
  output : Pair
deriving Repr, DecidableEq, Inhabited

structure ServiceTyping where
  name : String
  input : Pair
  output : Pair
  steps : List StepTyping := []
deriving Repr, DecidableEq, Inhabited

/-- A pair, and the steps that led to it. -/
structure Trace where
  pair : Pair
  steps : List StepTyping := []
deriving Repr, DecidableEq, Inhabited

/-- Goes on from a trace. -/
def Trace.andThen {ε : Type} (trace : Trace) (next : Pair → Except ε Trace) : Except ε Trace := do
  let rest ← next trace.pair
  return { pair := rest.pair, steps := trace.steps ++ rest.steps }

section Steps

variable (service : String)

def fail {α : Type} (position : String) (mismatch : Mismatch) : Except Error α :=
  .error { service, position, mismatch }

def failAt {α : Type} (position : String) (operation : Operation) (mismatch : Mismatch) :
    Except Error α :=
  .error { service, position, operator := operation.operator,
           uses := operation.step.uses, mismatch }

/-- Compares a step's declared input with the pair that reaches it. -/
def expect (position : String) (operation : Operation) (pair : Pair) : Except Error Unit := do
  match operation.step.inputPair with
  | none => failAt service position operation (.noInput pair.value)
  | some declared =>
    match declared.key, pair.key with
    | some key, none => failAt service position operation (.keyMissing key)
    | some key, some found =>
      if !sameTypeName key found then failAt service position operation (.keyType key found)
    | none, _ => pure ()
    if !sameTypeName declared.value pair.value then
      failAt service position operation (.inputType declared.value pair.value)

def typing (position : String) (operation : Operation) (input output : Pair) : StepTyping :=
  { position, operator := operation.operator, uses := operation.step.uses, input, output }

/-- Threads a pair through transforms; `index` counts them for positions. -/
def chain (position : String) : Nat → List Operation → Pair → Except Error Trace
  | _, [], pair => .ok { pair }
  | index, operation :: rest, pair => do
    let here := position ++ "[" ++ toString index ++ "]"
    expect service here operation pair
    let next := operation.passOn pair
    Trace.andThen { pair := next, steps := [typing here operation pair next] }
      (chain position (index + 1) rest)

/-- A step that is checked and leaves the pair as it is. -/
def check (position : String) (operation : Operation) (pair : Pair) : Except Error Trace := do
  expect service position operation pair
  return { pair, steps := [typing position operation pair pair] }

def inferUpdate (position : String) (step : Step) (pair : Pair) : Except Error Trace := do
  let operation := Operation.mk .updateState step
  expect service position operation pair
  match step.states.find? fun state => state.resolved.isNone with
  | some state => failAt service position operation (.unresolvedState state.name)
  | none => return { pair, steps := [typing position operation pair pair] }

/-- The key of the pair is what `assign-key` puts out. -/
def inferAssignKey (position : String) (step : Step) (pair : Pair) : Except Error Trace := do
  let operation := Operation.mk .assignKey step
  expect service position operation pair
  match step.output with
  | none => failAt service position operation .noOutput
  | some output =>
    let keyed := pair.withKey output.value
    return { pair := keyed, steps := [typing position operation pair keyed] }

def inferPartition (position : String) (partition : Partition) (pair : Pair) :
    Except Error Trace := do
  let keyed ← inferAssignKey service (position ++ ".assign-key") partition.assignKey pair
  let trace ← keyed.andThen (chain service (position ++ ".transforms") 0 partition.transforms)
  match partition.updateState with
  | none => return trace
  | some step => trace.andThen (inferUpdate service (position ++ ".update-state") step)

def inferFlush (position : String) (step : Step) (pair : Pair) : Except Error Trace :=
  let operation := Operation.mk .aggregate step
  match step.output with
  | none => failAt service position operation .noOutput
  | some output =>
    .ok { pair := output.pair, steps := [typing position operation pair output.pair] }

def inferWindow (window : Window) (pair : Pair) : Except Error Trace := do
  let stamped ←
    check service "window.assign-timestamp" ⟨.assignTimestamp, window.assignTimestamp⟩ pair
  let trace ← stamped.andThen (chain service "window.transforms" 0 window.transforms)
  let trace ← match window.partition with
    | none => pure trace
    | some partition => trace.andThen (inferPartition service "window.partition" partition)
  match window.flush with
  | none => return trace
  | some step => trace.andThen (inferFlush service "window.flush" step)

/-- The window or the partition of a service. -/
def inferStage (service : Service) (pair : Pair) : Except Error Trace :=
  match service.window, service.partition with
  | some window, _ => inferWindow service.name window pair
  | none, some partition => inferPartition service.name "partition" partition pair
  | none, none => .ok { pair }

def inferSource (topics : List Topic) (index : Nat) (source : Endpoint) : Except Error Trace :=
  let position := "sources[" ++ toString index ++ "]"
  match source.targetPair topics with
  | .error error => fail service position (.unknownTopic error)
  | .ok none => fail service position (.noTarget source.id)
  | .ok (some pair) => chain service (position ++ ".transforms") 0 source.transforms pair

/-- The sources behind the first, each of which is compared with it. -/
def inferOthers (topics : List Topic) (first : Pair) :
    Nat → List Endpoint → Except Error (List StepTyping)
  | _, [] => .ok []
  | index, source :: rest => do
    let trace ← inferSource service topics index source
    if pairsAgree [first, trace.pair] then
      return trace.steps ++ (← inferOthers topics first (index + 1) rest)
    else
      fail service ("sources[" ++ toString index ++ "]") (.sources source.id trace.pair first)

/-- The pair that leaves the sources is that of the first. -/
def inferSources (topics : List Topic) : List Endpoint → Except Error Trace
  | [] => fail service "sources" .noSources
  | first :: rest => do
    let trace ← inferSource service topics 0 first
    let steps ← inferOthers service topics trace.pair 1 rest
    return { trace with steps := trace.steps ++ steps }

/-- Compares what reaches a sink with what its target takes. -/
def checkSink (topics : List Topic) (position : String) (sink : Endpoint) (pair : Pair) :
    Except Error Unit :=
  match sink.targetPair topics with
  | .error error => fail service position (.unknownTopic error)
  | .ok none => if sink.transforms.isEmpty then .ok () else fail service position .targetTransforms
  | .ok (some target) =>
    if !sameTypeName target.value pair.value then
      fail service position (.sinkValue sink.id target.value pair.value)
    else match target.key, pair.key with
      | some expected, some found =>
        if expected = found then .ok () else fail service position (.sinkKey sink.id expected found)
      | _, _ => .ok ()

def inferSinks (topics : List Topic) (pair : Pair) :
    Nat → List Endpoint → Except Error (List StepTyping)
  | _, [] => .ok []
  | index, sink :: rest => do
    let position := "sinks[" ++ toString index ++ "]"
    let trace ← chain service (position ++ ".transforms") 0 sink.transforms pair
    checkSink service topics position sink trace.pair
    return trace.steps ++ (← inferSinks topics pair (index + 1) rest)

end Steps

/-- Infers the types of a service. -/
def infer (topics : List Topic) (service : Service) : Except Error ServiceTyping := do
  let sources ← inferSources service.name topics service.sources
  let transforms ← sources.andThen (chain service.name "transforms" 0 service.transforms)
  let stage ← transforms.andThen (inferStage service)
  let sinks ← inferSinks service.name topics stage.pair 0 service.sinks
  return { name := service.name, input := sources.pair, output := stage.pair,
           steps := stage.steps ++ sinks }

/-- Infers all services; the errors of all that fail are collected. -/
def inferAll (dataflow : Dataflow) : Except (List Error) (List ServiceTyping) :=
  let results := dataflow.services.map (infer dataflow.topics)
  let errors := results.filterMap fun result => match result with
    | .error error => some error
    | .ok _ => none
  if errors.isEmpty then .ok (results.filterMap Except.toOption) else .error errors

/-! ### Encoding -/

def StepTyping.toJson (typing : StepTyping) : Json :=
  .object [("position", .text typing.position), ("operator", .text typing.operator.name),
    ("uses", .text typing.uses), ("input", typing.input.toJson), ("output", typing.output.toJson)]

def ServiceTyping.toJson (typing : ServiceTyping) : Json :=
  .object ([("name", .text typing.name), ("input", typing.input.toJson),
      ("output", typing.output.toJson)]
    ++ Json.listUnlessEmpty "steps" (typing.steps.map StepTyping.toJson))

end FlowSpec.Inference
