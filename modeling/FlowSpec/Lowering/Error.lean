import FlowSpec.ApiVersion
import FlowSpec.Duration
import FlowSpec.Step

/-! Why a document has no definition: a cause, and the parts of the document around it, outermost
first. -/

set_option autoImplicit false

namespace FlowSpec.Lowering

inductive Cause where
  | apiVersion (error : ApiVersion.Error)
  | topLevelTypeName
  | nestedTypeName
  | redefined (type : String)
  | missingOperator
  | unknownOperator (name : String)
  | notTransform (operator : String)
  | missingFunctionName
  | stateReference (text : String)
  | stateType (found : String)
  | duration (error : Duration.Error)
deriving Repr, DecidableEq, Inhabited

def Cause.message : Cause → String
  | apiVersion error => error.message
  | topLevelTypeName => "top level type should not have a type_name"
  | nestedTypeName => "nested type requires a type-name"
  | redefined type => "Type " ++ type ++ " is defined multiple times with different definitions"
  | missingOperator => "missing field `operator`"
  | unknownOperator name => Operator.unknownMessage name
  | notTransform operator => "operator `" ++ operator ++ "` is not allowed in a transforms block"
  | missingFunctionName => "could not find a function name in inline code, add `uses`"
  | stateReference text => "invalid state reference `" ++ text ++ "`, expected `<service>.<state>`"
  | stateType found => "state type must be `keyed-state`, found `" ++ found ++ "`"
  | duration error => error.message

structure Error where
  context : List String := []
  cause : Cause
deriving Repr, DecidableEq, Inhabited

def Error.message (error : Error) : String :=
  error.context.foldr (fun part rest => part ++ ": " ++ rest) error.cause.message

/-- The error as seen from one level further out. -/
def Error.within (context : String) (error : Error) : Error :=
  { error with context := context :: error.context }

end FlowSpec.Lowering
