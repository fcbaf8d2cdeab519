import FlowSpec.Code
import FlowSpec.Header
import FlowSpec.State

/-! Steps: the typed signatures of operator functions, and the operators that call them. -/

set_option autoImplicit false

namespace FlowSpec

inductive Operator where
  | map
  | filter
  | filterMap
  | flatMap
  | assignKey
  | assignTimestamp
  | updateState
  | aggregate
deriving Repr, DecidableEq, Inhabited

namespace Operator

def all : List Operator :=
  [map, filter, filterMap, flatMap, assignKey, assignTimestamp, updateState, aggregate]

def name : Operator → String
  | map => "map"
  | filter => "filter"
  | filterMap => "filter-map"
  | flatMap => "flat-map"
  | assignKey => "assign-key"
  | assignTimestamp => "assign-timestamp"
  | updateState => "update-state"
  | aggregate => "aggregate"

def ofName? (name : String) : Option Operator := all.find? fun operator => operator.name == name

/-- What is said of a name that is no operator's. -/
def unknownMessage (name : String) : String := "unknown operator `" ++ name ++ "`"

/-- Allowed in a block of transforms. -/
def isTransform : Operator → Bool
  | map | filter | filterMap | flatMap => true
  | _ => false

end Operator

/-- An input of a step; the record's key or its value. -/
structure Parameter where
  name : String
  type : String
  isOptional : Bool := false
  isKey : Bool := false
deriving Repr, DecidableEq, Inhabited

/-- The output of a step: a value, and a key where the step makes pairs. -/
structure Output where
  key : Option String := none
  value : String
  isOptional : Bool := false
  isList : Bool := false
deriving Repr, DecidableEq, Inhabited

/-- Where an imported step came from; the path leads from the importing document to its package. -/
structure FunctionOrigin where
  package : Header
  name : String
  asName : String := ""
  path : String := ""
deriving Repr, DecidableEq, Inhabited

structure Step where
  uses : String
  inputs : List Parameter := []
  output : Option Output := none
  states : List StepState := []
  code : Code := {}
  imported : Option FunctionOrigin := none
deriving Repr, DecidableEq, Inhabited

/-- An operator with the function it calls. -/
structure Operation where
  operator : Operator
  step : Step
deriving Repr, DecidableEq, Inhabited

def Output.isBool (output : Output) : Bool :=
  output.key.isNone && Primitive.normalize output.value == "bool"

namespace Step

/-- The first input is the record's key. -/
def requiresKey (step : Step) : Bool :=
  match step.inputs with
  | first :: _ => first.isKey
  | [] => false

def hasKeyInOutput (step : Step) : Bool :=
  match step.output with
  | some output => output.key.isSome
  | none => false

/-- The input that receives the record's value. -/
def valueInput (step : Step) : Option Parameter :=
  if step.requiresKey then step.inputs[1]? else step.inputs[0]?

end Step

/-! ### Encoding -/

def Parameter.toJson (parameter : Parameter) : Json :=
  .object ([("name", .text parameter.name), ("type", typeRef parameter.type)]
    ++ Json.flagIfSet "optional" parameter.isOptional
    ++ [("kind", .text (if parameter.isKey then "key" else "value"))])

def Output.typeJson (output : Output) : Json :=
  match output.key with
  | some key => .object [("ref", typeRef ""), ("keyValue", keyValueJson key output.value)]
  | none => .object [("ref", typeRef output.value)]

def Output.toJson (output : Output) : Json :=
  .object ([("type", output.typeJson)] ++ Json.flagIfSet "optional" output.isOptional
    ++ Json.flagIfSet "list" output.isList)

def FunctionOrigin.toJson (origin : FunctionOrigin) : Json :=
  .object ([("package", origin.package.toJson), ("name", .text origin.name)]
    ++ Json.textUnlessEmpty "alias" origin.asName ++ Json.textUnlessEmpty "path" origin.path)

def Step.toJson (step : Step) : Json :=
  .object ([("uses", .text step.uses),
      ("inputs", Json.listOrNull (step.inputs.map Parameter.toJson))]
    ++ Json.memberIfSome "output" step.output Output.toJson
    ++ Json.listUnlessEmpty "states" (step.states.map StepState.toJson)
    ++ [("code", step.code.toJson)]
    ++ Json.memberIfSome "imported" step.imported FunctionOrigin.toJson)

def Operation.toJson (operation : Operation) : Json :=
  .object [("operator", .text operation.operator.name), ("step", operation.step.toJson)]

end FlowSpec
