import FlowSpec.Wit.Types

/-!
Interfaces of functions: the function itself, and how its inputs and outputs are read and written.
Keys and optional inputs are options.
-/

set_option autoImplicit false

namespace FlowSpec.Wit

def serviceName (uses : String) : String := normalName uses ++ "-service"

/-- The type names in a step's signature and the names of the states it uses. -/
def stepTypeNames (step : Step) : List String :=
  step.inputs.map Parameter.type
    ++ (match step.output with
      | some output => output.value :: output.key.toList
      | none => [])
    ++ step.states.filterMap fun state => state.resolved.map TypedState.name

def rowPackage : String := "sdf:row-state/row"

def valuesPackage : String := "sdf:value-state/values"

/-- The handle of a state: aggregates see a whole window, other operators one entry. -/
def stateUse (operator : Operator) (state : TypedState) : Option Use :=
  let isAggregate := operator = .aggregate
  match state.type.value with
  | .row _ =>
    if isAggregate then some ⟨tablePackage, [tableHandle]⟩ else some ⟨rowPackage, ["row-value"]⟩
  | .u32 => some ⟨valuesPackage, [if isAggregate then "list32" else "value32"]⟩
  | .unresolved _ => none

/-- The handles of a step's states: each once, in order. -/
def stateUses (operator : Operator) (step : Step) : List Use :=
  Text.dropRepeats (Text.sortByName Use.text
    (step.states.filterMap fun state => state.resolved.bind (stateUse operator)))

def inputParam (input : Parameter) : Param :=
  { name := identifier input.name
    type := if input.isOptional || input.isKey then .option (typeRef input.type)
      else typeRef input.type }

def outputType (operator : Operator) (output : Output) : TypeExpr :=
  let type := match output.key with
    | some key => .pair (.option (typeRef key)) (typeRef output.value)
    | none => typeRef output.value
  if output.isOptional then .option type
  else if operator = .flatMap then .list type
  else type

/-- The interface of the function itself. -/
def serviceInterface (operator : Operator) (step : Step) : Interface :=
  { name := serviceName step.uses
    uses := typesUse (stepTypeNames step) ++ stateUses operator step
    funcs := [{ name := identifier step.uses, params := step.inputs.map inputParam,
                result := step.output.map (outputType operator) }] }

/-- The first input that is a key, or the first that is none. -/
def inputType (step : Step) (isKey : Bool) : Option String :=
  (step.inputs.find? fun input => input.isKey == isKey).map Parameter.type

/-- A type, or octets where there is none. -/
def typeOrOctets : Option String → TypeExpr
  | some name => typeRef name
  | none => .octets

def stringType : TypeExpr := .builtin .string

/-- How keys and values become inputs of a function. -/
def deserializeInterface (step : Step) : Interface :=
  let key := inputType step true
  let value := inputType step false
  { name := "deserialize-" ++ normalName step.uses
    uses := typesUse (key.toList ++ value.toList)
    funcs := [
      { name := "deserialize-key", params := [⟨"key", .option stringType⟩],
        result := some (.option (typeOrOctets key)) },
      { name := "deserialize-input", params := [⟨"value", stringType⟩],
        result := some (typeOrOctets value) }] }

/-- How outputs are written; a function without an output has no such interface. -/
def serializeInterface (step : Step) : Option Interface :=
  step.output.map fun output =>
    { name := "serialize-" ++ normalName step.uses
      uses := typesUse (output.value :: output.key.toList)
      funcs := [
        { name := "serialize-key", params := [⟨"input", .option (typeOrOctets output.key)⟩],
          result := some (.option .octets) },
        { name := "serialize-output", params := [⟨"input", typeRef output.value⟩],
          result := some .octets }] }

end FlowSpec.Wit
