import FlowSpec.Pair
import FlowSpec.Scope.Validation

/-!
Validation of steps: the number of inputs, the presence and kind of the output, and the names of
types, each as the operator asks for it.
-/

set_option autoImplicit false

namespace FlowSpec.Validation

/-- How a function is introduced in messages. -/
def functionLabel (kind : String) (step : Step) : String :=
  kind ++ " type function `" ++ step.uses ++ "`"

def inputCount (count : Nat) (kind : String) (step : Step) : List String :=
  let expected := if step.requiresKey then count + 1 else count
  if step.inputs.length = expected then []
  else [functionLabel kind step ++ " should have exactly " ++ toString expected ++
      " input type, found "
    ++ toString step.inputs.length]

def noInputs (kind : String) (step : Step) : List String :=
  if step.inputs.isEmpty then []
  else [functionLabel kind step ++ " should have no input type, but found "
    ++ Text.join ", " (step.inputs.map fun input => "[" ++ input.name ++ ": " ++ input.type ++ "]")]

def outputPresent (kind : String) (step : Step) : List String :=
  if step.output.isSome then [] else [functionLabel kind step ++ " requires an output type"]

def noOutput (kind : String) (step : Step) : List String :=
  match step.output with
  | some output =>
    [functionLabel kind step ++ " should have no output, but found `" ++ output.value ++ "`"]
  | none => []

def boolOutput (step : Step) : List String :=
  let message (found : String) : List String :=
    [functionLabel "filter" step ++ " requires an output type of `bool`, but found " ++ found]
  match step.output with
  | some output => if output.isBool then [] else message ("`" ++ output.value ++ "`")
  | none => message "no type"

/-- The type is an option behind aliases. -/
def isOptionType (scope : Scope) (name : String) : Bool :=
  match scope.innerName name with
  | (inner, true) => match scope.shape? inner with
    | some (.option _) => true
    | _ => false
  | _ => false

def optionalOutput (scope : Scope) (kind : String) (step : Step) : List String :=
  let isOptional := match step.output with
    | some output => output.isOptional || (output.key.isNone && isOptionType scope output.value)
    | none => false
  if isOptional then [] else [functionLabel kind step ++ " requires an optional output type"]

def inputsInScope (scope : Scope) (step : Step) : List String :=
  (step.inputs.filter fun input => !scope.contains input.type).map fun input =>
    "function `" ++ step.uses ++ "` has invalid input type, " ++ unknownTypeLine input.type

def outputInScope (scope : Scope) (step : Step) : List String :=
  match step.output with
  | some output =>
    if scope.contains output.value then []
    else ["function `" ++ step.uses ++ "` has invalid output type, " ++
        unknownTypeLine output.value]
  | none => []

def hashableNames : String := "u8, u16, u32, u64, s8, s16, s32, s64, bool, string, f32, f64"

def hashableOutput (scope : Scope) (step : Step) : List String :=
  match step.output with
  | none => []
  | some output =>
    match scope.shape? output.value with
    | none => []
    | some shape =>
      if scope.isHashable shape then []
      else ["output type for assign-key type function `" ++ step.uses
        ++ "` must be hashable, or a reference to a hashable type. found `" ++ output.value
        ++ "`.\n hashable types: [" ++ hashableNames ++ "]"]

def timestampType (scope : Scope) (which : String) (step : Step) (type : String) : List String :=
  if scope.isS64 type then []
  else [which ++ " type for assign-timestamp type function `" ++ step.uses
    ++ "` must be a signed 64-bit int or an alias for one, found: `" ++ type ++ "`"]

def timestampSignature (scope : Scope) (step : Step) : List String :=
  (match step.inputs.getLast? with
    | some last => timestampType scope "second input" step last.type
    | none => [])
    ++ match step.output with
      | some output => timestampType scope "output" step output.value
      | none => []

/-- Inline code defines the function that the step names. -/
def inlineCode (step : Step) : List String :=
  if step.code.source.isEmpty then []
  else
    let name := step.code.functionName
    if name.isEmpty then
      ["could not find a function definition in the code of `" ++ step.uses ++ "`"]
    else if name ≠ step.uses then
      ["function name on parsed code does not match. Got " ++ name ++ ", expected: " ++ step.uses]
    else []

/-- What an operator asks of its function. -/
def signature (scope : Scope) (operator : Operator) (step : Step) : List String :=
  let kind := operator.name
  match operator with
  | .map | .flatMap =>
    inputCount 1 kind step ++ outputPresent kind step ++ inputsInScope scope step
      ++ outputInScope scope step
  | .filter =>
    inputCount 1 kind step ++ boolOutput step ++ inputsInScope scope step ++
      outputInScope scope step
  | .filterMap =>
    inputCount 1 kind step ++ outputPresent kind step ++ optionalOutput scope kind step
      ++ inputsInScope scope step ++ outputInScope scope step
  | .updateState => inputCount 1 kind step ++ inputsInScope scope step ++ noOutput kind step
  | .aggregate =>
    noInputs "window-aggregate" step ++ outputPresent "window-aggregate" step ++
      outputInScope scope step
  | .assignKey =>
    inputCount 1 kind step ++ outputPresent kind step ++ inputsInScope scope step
      ++ outputInScope scope step ++ hashableOutput scope step
  | .assignTimestamp =>
    inputCount 2 kind step ++ outputPresent kind step ++ inputsInScope scope step
      ++ outputInScope scope step ++ timestampSignature scope step

/-- What is wrong with a step. -/
def stepProblems (scope : Scope) (operator : Operator) (step : Step) : List String :=
  signature scope operator step ++ inlineCode step

end FlowSpec.Validation
