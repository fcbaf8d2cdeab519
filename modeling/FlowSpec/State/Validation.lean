import FlowSpec.Scope.Validation

/-! Validation of the entries of a service's pool. Typed states are expected to be resolved. -/

set_option autoImplicit false

namespace FlowSpec.State

def referenceForm : String := "state reference must be of the form <service>.<state>"

def typedProblems (state : TypedState) : List Report :=
  match state.type.value with
  | .unresolved _ =>
    [.line ("Internal Error: typed state value should be resolved before validation. "
      ++ "Please contact support")]
  | .row columns => (checkStateRow columns).toList
  | .u32 => []

def referenceProblems (target : Option StateTarget) : List String :=
  match target with
  | none => ["empty state reference found. " ++ referenceForm]
  | some target =>
    match target.service.isEmpty, target.state.isEmpty with
    | true, true => ["empty state reference found. " ++ referenceForm]
    | false, true => ["state name missing for state reference. " ++ referenceForm]
    | true, false => ["service name missing for state reference. " ++ referenceForm]
    | false, false => []

def systemProblems (name kind : String) : List String :=
  match name.isEmpty, kind.isEmpty with
  | true, true => ["empty system state found. state name and system cannot be empty"]
  | true, false => ["Name must be specified for system state"]
  | false, true => ["System must be specified for system state `" ++ name ++ "`"]
  | false, false => []

/-- The reports on one entry. -/
def problems (state : PoolState) : List Report :=
  match state.source with
  | .owned (some typed) => typedProblems typed
  | .owned none => []
  | .reference target _ => (Report.linesUnlessEmpty (referenceProblems target)).toList
  | .system kind => (Report.linesUnlessEmpty (systemProblems state.name kind)).toList

end FlowSpec.State
